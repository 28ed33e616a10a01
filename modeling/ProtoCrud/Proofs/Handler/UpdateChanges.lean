import ProtoCrud.Proofs.Generate.LegalCode
import ProtoCrud.Proofs.Handler.RequestFields
import ProtoCrud.Proofs.Record.Outcome

/-!
# What an update changes

An update takes one look at every stored field: what its request has under the name of the field,
and whether the field is an enum. Enums and fields that are always there are written whatever they
hold, and an enum that is absent counts as number zero; other fields are written if they are
present. An update is refused if nothing is left to write.
-/

namespace ProtoCrud.Handler

open Code (fieldIdentifier)
open Descriptor (Message)
open Record Schema Sql

/-! ## Changes -/

def presentValue? : Datum → Option (Option Value)
  | ⟨.optional type, held⟩ => some (held.map type.toValue)
  | _ => none

/-- The value to write, if there is one, and if the data are of the types that it takes them for. -/
def UpdateValue.value? (codec? : String → Option EnumCodec) (data : RequestData) :
    UpdateValue → Option (Option Value)
  | .encodedOrZero codec field => do
    let codec ← codec? codec
    let number ← optionalNumber? (data field)
    some (some (.text (codec.encode (number.getD 0))))
  | .encoded codec field => do
    let codec ← codec? codec
    let number ← number? (data field)
    some (some (.text (codec.encode number)))
  | .ifPresent field => presentValue? (data field)
  | .requested field => some (some (data field).toValue)

def assigned? (codec? : String → Option EnumCodec) (data : RequestData) :
    List Assignment → Option (List (String × Value))
  | [] => some []
  | assignment :: rest => do
    let value ← assignment.value.value? codec? data
    let others ← assigned? codec? data rest
    some ((value.map (assignment.column, ·)).toList ++ others)

def UpdatePlan.changes? (plan : UpdatePlan) (codec? : String → Option EnumCodec)
    (data : RequestData) : Option Changes := do
  let assignments ← assigned? codec? data plan.assignments
  some
    { assignments
      updatedBy := plan.author.elim .null fun field ↦ (data field).toValue }

def changes? (entity : Entity) (request : RequestShape) (data : RequestData) : Option Changes :=
  (updatePlan entity request).changes? (definedCodec? entity) data

/-- What an update writes for a stored field, if anything. -/
def sent? (entity : Entity) (data : RequestData) (field : Field) : Option Value :=
  (assignment? entity (entity.classifyField field)).bind fun assignment ↦
    (assignment.value.value? (definedCodec? entity) data).join

section Changes

variable {entity : Entity} {request : RequestShape} {data : RequestData}

theorem column_assignment? {field : Field} {assignment : Assignment}
    (h : assignment? entity (entity.classifyField field) = some assignment) :
    assignment.column = field.column := by
  obtain ⟨value, -, rfl⟩ := Option.map_eq_some_iff.mp h
  rfl

theorem assigned?_eq_filterMap {assignments : List Assignment} {set : List (String × Value)}
    (h : assigned? (definedCodec? entity) data assignments = some set) :
    set = assignments.filterMap fun assignment ↦
      (assignment.value.value? (definedCodec? entity) data).join.map (assignment.column, ·) := by
  induction assignments generalizing set with
  | nil => exact (Option.some.inj h).symm
  | cons assignment rest ih =>
    obtain ⟨value, hvalue, h⟩ := Option.bind_eq_some_iff.mp h
    obtain ⟨others, hothers, h⟩ := Option.bind_eq_some_iff.mp h
    rw [← Option.some.inj h, ih hothers, List.filterMap_cons, hvalue]
    cases value <;> rfl

/-- The columns are set if every value can be made. -/
theorem exists_assigned {assignments : List Assignment}
    (h : ∀ assignment ∈ assignments, ∃ value,
      assignment.value.value? (definedCodec? entity) data = some value) :
    ∃ set, assigned? (definedCodec? entity) data assignments = some set := by
  induction assignments with
  | nil => exact ⟨[], rfl⟩
  | cons assignment rest ih =>
    obtain ⟨⟨value, hvalue⟩, hrest⟩ := List.forall_mem_cons.mp h
    obtain ⟨others, hothers⟩ := ih hrest
    exact ⟨_, by rw [assigned?, hvalue, hothers]; rfl⟩

/-- The changes of an update are what it writes for the stored fields, in their order. -/
theorem assignments_of_changes? {changes : Changes}
    (h : changes? entity request data = some changes) :
    changes.assignments = (storedFields entity).filterMap fun field ↦
      (sent? entity data field).map (field.column, ·) := by
  obtain ⟨set, hset, h⟩ := Option.bind_eq_some_iff.mp h
  rw [← Option.some.inj h]
  dsimp only
  rw [assigned?_eq_filterMap hset]
  change List.filterMap _ (List.filterMap _ ((storedFields entity).map entity.classifyField)) = _
  rw [List.filterMap_filterMap, List.filterMap_map]
  refine List.filterMap_congr fun field _ ↦ ?_
  dsimp only [Function.comp_apply]
  rw [sent?]
  cases hassignment : assignment? entity (entity.classifyField field) with
  | none => rfl
  | some assignment =>
    rw [Option.bind_some, Option.bind_some, column_assignment? hassignment]

theorem mem_assignments_iff {changes : Changes} (h : changes? entity request data = some changes)
    {column : String} {value : Value} :
    (column, value) ∈ changes.assignments ↔
      ∃ field ∈ storedFields entity, sent? entity data field = some value ∧
        field.column = column := by
  rw [assignments_of_changes? h, List.mem_filterMap]
  refine exists_congr fun field ↦ and_congr_right fun _ ↦ ?_
  cases sent? entity data field <;> simp [and_comm]

/-- An update sets columns of stored fields, in their order. -/
theorem columns_sublist {changes : Changes} (h : changes? entity request data = some changes) :
    (changes.assignments.map Prod.fst).Sublist ((storedFields entity).map (·.column)) := by
  rw [assignments_of_changes? h]
  generalize storedFields entity = fields
  induction fields with
  | nil => exact List.Sublist.slnil
  | cons field rest ih =>
    rw [List.filterMap_cons]
    cases sent? entity data field with
    | none => exact ih.cons _
    | some value => exact ih.cons_cons _

end Changes

/-! ## Single fields -/

def fieldCodec? (entity : Entity) (field : Field) : Option EnumCodec :=
  (entity.codecOf? field).bind (definedCodec? entity)

/-- The value to write for a field that the request declares, with presence or without. -/
inductive IsSent (entity : Entity) (field : Field) : Bool → Datum → Value → Prop where
  /-- The text of an enum. -/
  | enum {codec : EnumCodec} (hcodec : fieldCodec? entity field = some codec) (number : Int32) :
    IsSent entity field false ⟨.int32, number⟩ (.text (codec.encode number))
  /-- The text of an enum that may be absent; it counts as number zero then. -/
  | optionalEnum {codec : EnumCodec} (hcodec : fieldCodec? entity field = some codec)
    (number : Option Int32) :
    IsSent entity field true ⟨.optional .int32, number⟩ (.text (codec.encode (number.getD 0)))
  /-- A value that is always there. -/
  | plain (henum : field.isEnum = false) (datum : Datum) :
    IsSent entity field false datum datum.toValue
  /-- A value that may be absent and is not. -/
  | present (henum : field.isEnum = false) {type : ColumnType} (held : type.Carrier) :
    IsSent entity field true ⟨.optional type, some held⟩ (type.toValue held)

section Fields

variable {entity : Entity} {operation : CrudMethod} {field inRequest : Field}

theorem assignment?_eq_none (hupdate : entity.methods.at? .update = some operation)
    (hfound : operation.request.field? field.name = none) :
    assignment? entity (entity.classifyField field) = none := by
  simp [assignment?, Entity.classifyField, requestField?_eq hupdate, hfound, updateState]

theorem assignment?_of_codec (hupdate : entity.methods.at? .update = some operation)
    (hfound : operation.request.field? field.name = some inRequest) {codec : String}
    (hcodec : entity.codecOf? field = some codec) (henum : field.isEnum = true) :
    assignment? entity (entity.classifyField field) = some ⟨field.column,
      if inRequest.optional then .encodedOrZero codec (fieldIdentifier field.name)
      else .encoded codec (fieldIdentifier field.name)⟩ := by
  simp [assignment?, Entity.classifyField, requestField?_eq hupdate, hfound, updateState, henum,
    hcodec]

theorem assignment?_of_plain (hupdate : entity.methods.at? .update = some operation)
    (hfound : operation.request.field? field.name = some inRequest)
    (hcodec : entity.codecOf? field = none) (henum : field.isEnum = false) :
    assignment? entity (entity.classifyField field) = some ⟨field.column,
      if inRequest.optional then .ifPresent (fieldIdentifier field.name)
      else .requested (fieldIdentifier field.name)⟩ := by
  cases hoptional : inRequest.optional <;>
    simp [assignment?, Entity.classifyField, requestField?_eq hupdate, hfound, updateState, henum,
      hcodec, hoptional]

theorem exists_eq_mk {datum : Datum} {type : ColumnType} (h : datum.type = type) :
    ∃ held, datum = ⟨type, held⟩ := by
  subst h
  exact ⟨datum.datum, rfl⟩

theorem fieldColumnType_of_isEnum (h : field.isEnum = true) :
    fieldColumnType field.type = .int32 := by
  unfold Field.isEnum at h
  split at h
  · next heq =>
    rw [heq]
    rfl
  · cases h

theorem fieldCodec?_eq_some {codec : String} {defined : EnumCodec}
    (hcodec : entity.codecOf? field = some codec)
    (hdefined : definedCodec? entity codec = some defined) :
    fieldCodec? entity field = some defined := by
  rw [fieldCodec?, hcodec, Option.bind_some, hdefined]

/-- What is written for an enum is its text. -/
theorem value?_of_codec {data : RequestData} {codec : String} {defined : EnumCodec}
    (hcodec : entity.codecOf? field = some codec)
    (hdefined : definedCodec? entity codec = some defined) (henum : field.isEnum = true)
    (optional : Bool) {name : String} (htype : (data name).type = optionalIf optional .int32) :
    ∃ sent, (if optional then UpdateValue.encodedOrZero codec name
        else .encoded codec name).value? (definedCodec? entity) data = some sent ∧
      ∀ value, sent = some value ↔ IsSent entity field optional (data name) value := by
  have hfield := fieldCodec?_eq_some hcodec hdefined
  obtain ⟨held, hheld⟩ := exists_eq_mk htype
  rw [hheld]
  cases optional with
  | false =>
    refine ⟨some (.text (defined.encode held)), ?_, fun value ↦ ⟨?_, fun hsent ↦ ?_⟩⟩
    · rw [if_neg Bool.false_ne_true, UpdateValue.value?, hdefined, hheld]
      rfl
    · intro hvalue
      obtain rfl := Option.some.inj hvalue
      exact .enum hfield held
    · cases hsent with
      | enum hother =>
        obtain rfl := Option.some.inj (hfield.symm.trans hother)
        rfl
      | plain hplain => cases henum.symm.trans hplain
  | true =>
    refine ⟨some (.text (defined.encode (held.getD 0))), ?_, fun value ↦ ⟨?_, fun hsent ↦ ?_⟩⟩
    · rw [if_pos rfl, UpdateValue.value?, hdefined, hheld]
      rfl
    · intro hvalue
      obtain rfl := Option.some.inj hvalue
      exact .optionalEnum hfield held
    · cases hsent with
      | optionalEnum hother =>
        obtain rfl := Option.some.inj (hfield.symm.trans hother)
        rfl
      | present hplain => cases henum.symm.trans hplain

/-- What is written for a field without a codec is its value, if it is present. -/
theorem value?_of_plain {data : RequestData} (henum : field.isEnum = false)
    (hcodec : fieldCodec? entity field = none) (optional : Bool) {type : ColumnType}
    {name : String} (htype : (data name).type = optionalIf optional type) :
    ∃ sent, (if optional then UpdateValue.ifPresent name
        else .requested name).value? (definedCodec? entity) data = some sent ∧
      ∀ value, sent = some value ↔ IsSent entity field optional (data name) value := by
  obtain ⟨held, hheld⟩ := exists_eq_mk htype
  rw [hheld]
  cases optional with
  | false =>
    refine ⟨some (type.toValue held), ?_, fun value ↦ ⟨?_, fun hsent ↦ ?_⟩⟩
    · rw [if_neg Bool.false_ne_true, UpdateValue.value?, hheld]
      rfl
    · intro hvalue
      obtain rfl := Option.some.inj hvalue
      exact .plain henum _
    · cases hsent with
      | enum hother => cases hcodec.symm.trans hother
      | plain => rfl
  | true =>
    refine ⟨held.map type.toValue, ?_, fun value ↦ ⟨?_, fun hsent ↦ ?_⟩⟩
    · rw [if_pos rfl, UpdateValue.value?, hheld]
      rfl
    · intro hvalue
      obtain ⟨present, rfl, rfl⟩ := Option.map_eq_some_iff.mp hvalue
      exact .present henum present
    · cases hsent with
      | optionalEnum hother => cases hcodec.symm.trans hother
      | present => rfl

end Fields

section Resolved

variable {files : List Descriptor.File} {requested : List String} {schema : Resolution}
  {entity : Entity} {operation : CrudMethod} {input : Message} {data : RequestData}

/-- Every enum field has a codec, and it is defined. -/
theorem exists_codecOf (hschema : resolve files requested = .ok schema)
    (hentity : entity ∈ schema.entities) {field : Field} (hfield : field ∈ entity.fields)
    (henum : field.isEnum = true) :
    ∃ codec defined, entity.codecOf? field = some codec ∧
      definedCodec? entity codec = some defined := by
  obtain ⟨codec, hcodec⟩ := Option.isSome_iff_exists.mp
    ((codecOf?_isSome hschema hentity hfield).trans henum)
  obtain ⟨defined, hdefined⟩ := exists_definedCodec hschema hentity hfield hcodec
  exact ⟨codec, defined, hcodec, hdefined⟩

/-- What is written for a stored field that the request has. -/
theorem exists_sent (hschema : resolve files requested = .ok schema)
    (hentity : entity ∈ schema.entities)
    (hupdate : entity.methods.at? .update = some operation)
    (hinput : IsWritten entity operation.request input)
    (hdata : HoldsFields data operation.request) {field inRequest : Field}
    (hfield : field ∈ entity.fields)
    (hfound : operation.request.field? field.name = some inRequest) :
    ∃ assignment sent, assignment? entity (entity.classifyField field) = some assignment ∧
      assignment.value.value? (definedCodec? entity) data = some sent ∧
      ∀ value, sent = some value ↔ IsSent entity field inRequest.optional
        (data (fieldIdentifier field.name)) value := by
  have htype := hinput.type_eq_of_field? hdata hfield hfound
  cases henum : field.isEnum with
  | true =>
    obtain ⟨codec, defined, hcodec, hdefined⟩ := exists_codecOf hschema hentity hfield henum
    rw [fieldColumnType_of_isEnum henum] at htype
    obtain ⟨sent, hsent, hvalues⟩ := value?_of_codec hcodec hdefined henum inRequest.optional htype
    exact ⟨_, sent, assignment?_of_codec hupdate hfound hcodec henum, hsent, hvalues⟩
  | false =>
    have hnone : entity.codecOf? field = none := by
      simpa [henum] using codecOf?_isSome hschema hentity hfield
    have hplain : fieldCodec? entity field = none := by rw [fieldCodec?, hnone, Option.bind_none]
    obtain ⟨sent, hsent, hvalues⟩ := value?_of_plain henum hplain inRequest.optional htype
    exact ⟨_, sent, assignment?_of_plain hupdate hfound hnone henum, hsent, hvalues⟩

theorem sent?_eq_some_iff (hschema : resolve files requested = .ok schema)
    (hentity : entity ∈ schema.entities)
    (hupdate : entity.methods.at? .update = some operation)
    (hinput : IsWritten entity operation.request input)
    (hdata : HoldsFields data operation.request) {field : Field}
    (hfield : field ∈ storedFields entity) {value : Value} :
    sent? entity data field = some value ↔ ∃ optional, Declares input field.name optional ∧
      IsSent entity field optional (data (fieldIdentifier field.name)) value := by
  simp only [hinput.declares_iff hdata hfield]
  cases hfound : operation.request.field? field.name with
  | none => simp [sent?, assignment?_eq_none hupdate hfound]
  | some inRequest =>
    obtain ⟨assignment, sent, hassignment, hvalue, hsent⟩ := exists_sent hschema hentity hupdate
      hinput hdata (mem_storedFields.mp hfield).1 hfound
    have hread : sent? entity data field = sent := by
      rw [sent?, hassignment, Option.bind_some, hvalue, Option.join_some]
    simp [hread, hsent]

/-- Every update makes changes of its data. -/
theorem exists_changes (hschema : resolve files requested = .ok schema)
    (hentity : entity ∈ schema.entities)
    (hupdate : entity.methods.at? .update = some operation)
    (hinput : IsWritten entity operation.request input)
    (hdata : HoldsFields data operation.request) :
    ∃ changes, changes? entity operation.request data = some changes := by
  have hvalues : ∀ assignment ∈ (updatePlan entity operation.request).assignments,
      ∃ value, assignment.value.value? (definedCodec? entity) data = some value := by
    intro assignment hassignment
    obtain ⟨classified, hclassified, hmade⟩ := List.mem_filterMap.mp hassignment
    obtain ⟨field, hfield, rfl⟩ := List.mem_map.mp hclassified
    cases hfound : operation.request.field? field.name with
    | none => cases (assignment?_eq_none hupdate hfound).symm.trans hmade
    | some inRequest =>
      obtain ⟨other, sent, hother, hsent, -⟩ := exists_sent hschema hentity hupdate hinput hdata
        (List.mem_of_mem_filter hfield) hfound
      obtain rfl := Option.some.inj (hother.symm.trans hmade)
      exact ⟨sent, hsent⟩
  obtain ⟨set, hset⟩ := exists_assigned hvalues
  exact ⟨_, by rw [changes?, UpdatePlan.changes?, hset]; rfl⟩

end Resolved

/-! ## Absent values -/

section Absence

variable {entity : Entity} {field : Field} {optional : Bool} {datum : Datum} {value : Value}

theorem toValue_ne_null {type : ColumnType} (h : ∀ inner, type ≠ .optional inner)
    (held : type.Carrier) : type.toValue held ≠ .null :=
  fun hnull ↦ not_fits_null h (hnull ▸ fits_toValue type held)

theorem isEnum_of_fieldCodec? {codec : EnumCodec} (h : fieldCodec? entity field = some codec) :
    field.isEnum = true := by
  obtain ⟨name, hname, -⟩ := Option.bind_eq_some_iff.mp h
  obtain ⟨enumName, henum, -⟩ := Option.bind_eq_some_iff.mp hname
  rw [Field.isEnum, enumName?_eq_some.mp henum]

/-- The absence of a value is never written. -/
theorem IsSent.ne_null (h : IsSent entity field optional datum value)
    (htype : datum.type = optionalIf optional (fieldColumnType field.type)) : value ≠ .null := by
  have hplain := fieldColumnType_ne_optional field.type
  cases h with
  | enum => exact Value.noConfusion
  | optionalEnum => exact Value.noConfusion
  | plain _ datum =>
    obtain ⟨type, held⟩ := datum
    obtain rfl : type = fieldColumnType field.type := htype
    exact toValue_ne_null hplain held
  | present _ held => exact toValue_ne_null (ColumnType.optional.inj htype ▸ hplain) held

/-- Nothing is written for a field that is no enum, may be absent and is. -/
theorem forall_not_isSent_iff
    (hcodec : field.isEnum = true → ∃ codec, fieldCodec? entity field = some codec)
    (htype : datum.type = optionalIf optional (fieldColumnType field.type)) :
    (∀ value, ¬ IsSent entity field optional datum value) ↔
      field.isEnum = false ∧ optional = true ∧ datum.toValue = .null := by
  constructor
  · intro hnone
    cases henum : field.isEnum with
    | true =>
      obtain ⟨codec, hcodec⟩ := hcodec henum
      rw [fieldColumnType_of_isEnum henum] at htype
      obtain ⟨held, rfl⟩ := exists_eq_mk htype
      cases optional with
      | false => exact absurd (.enum hcodec held) (hnone _)
      | true => exact absurd (.optionalEnum hcodec held) (hnone _)
    | false =>
      obtain ⟨held, rfl⟩ := exists_eq_mk htype
      cases optional with
      | false => exact absurd (.plain henum _) (hnone _)
      | true =>
        cases held with
        | none => exact ⟨rfl, rfl, rfl⟩
        | some held => exact absurd (.present henum held) (hnone _)
  · rintro ⟨henum, rfl, hnull⟩ value hsent
    cases hsent with
    | optionalEnum hcodec => cases henum.symm.trans (isEnum_of_fieldCodec? hcodec)
    | present _ held =>
      exact toValue_ne_null
        (ColumnType.optional.inj htype ▸ fieldColumnType_ne_optional field.type) held hnull

end Absence

/-! ## All fields -/

structure AreThoseSent (entity : Entity) (input : Message) (data : RequestData)
    (assignments : List (String × Value)) : Prop where
  /-- They stand in the order in which the entity declares the fields. -/
  sublist : (assignments.map Prod.fst).Sublist (entity.fields.map (·.name))
  nodup : (assignments.map Prod.fst).Nodup
  /-- There is one for every field that is no point in time, is declared in the request and sent. -/
  mem_iff : ∀ column value, (column, value) ∈ assignments ↔
    ∃ field ∈ entity.fields, field.name = column ∧ field.isTimestamp = false ∧
      ∃ optional, Declares input field.name optional ∧
        IsSent entity field optional (data (fieldIdentifier field.name)) value
  isAuditColumn_eq_false : ∀ column ∈ assignments.map Prod.fst, isAuditColumn column = false
  ne_null : ∀ value ∈ assignments.map Prod.snd, value ≠ .null

section Resolved

variable {files : List Descriptor.File} {requested : List String} {schema : Resolution}
  {entity : Entity} {operation : CrudMethod} {input : Message} {data : RequestData}

/-- The changes that an update makes are the fields that its request sends. -/
theorem areThoseSent_changes (hschema : resolve files requested = .ok schema)
    (hentity : entity ∈ schema.entities) (hnames : (entity.fields.map (·.name)).Nodup)
    (hupdate : entity.methods.at? .update = some operation)
    (hinput : IsWritten entity operation.request input)
    (hdata : HoldsFields data operation.request) {changes : Changes}
    (hchanges : changes? entity operation.request data = some changes) :
    AreThoseSent entity input data changes.assignments := by
  have hcolumns : (changes.assignments.map Prod.fst).Sublist (entity.fields.map (·.name)) := by
    have hstored := columns_sublist hchanges
    rw [← columns_recordTable, columns_eq_names hschema hentity] at hstored
    exact hstored.trans (List.filter_sublist.map _)
  have hmem (column : String) (value : Value) : (column, value) ∈ changes.assignments ↔
      ∃ field ∈ entity.fields, field.name = column ∧ field.isTimestamp = false ∧
        ∃ optional, Declares input field.name optional ∧
          IsSent entity field optional (data (fieldIdentifier field.name)) value := by
    rw [mem_assignments_iff hchanges]
    refine exists_congr fun field ↦ ⟨?_, ?_⟩
    · rintro ⟨hfield, hsent, rfl⟩
      obtain ⟨hmember, hstored⟩ := mem_storedFields.mp hfield
      exact ⟨hmember, (column_eq_name hschema hentity hmember).symm, hstored,
        (sent?_eq_some_iff hschema hentity hupdate hinput hdata hfield).mp hsent⟩
    · rintro ⟨hmember, rfl, hstored, hsent⟩
      have hfield := mem_storedFields.mpr ⟨hmember, hstored⟩
      exact ⟨hfield, (sent?_eq_some_iff hschema hentity hupdate hinput hdata hfield).mpr hsent,
        column_eq_name hschema hentity hmember⟩
  refine ⟨hcolumns, hcolumns.nodup hnames, hmem, fun column hcolumn ↦ ?_, fun value hvalue ↦ ?_⟩
  · obtain ⟨field, hfield, rfl⟩ := List.mem_map.mp (hcolumns.subset hcolumn)
    exact hinput.isAuditColumn_eq_false field hfield
  · obtain ⟨⟨column, _⟩, hassignment, rfl⟩ := List.mem_map.mp hvalue
    obtain ⟨field, hfield, -, hstored, optional, hdeclared, hsent⟩ :=
      (hmem column _).mp hassignment
    obtain ⟨inRequest, hfound, rfl⟩ := (hinput.declares_iff hdata
      (mem_storedFields.mpr ⟨hfield, hstored⟩)).mp hdeclared
    exact hsent.ne_null (hinput.type_eq_of_field? hdata hfield hfound)

/-- An update writes nothing if its request has only optional values, and all of them are absent. -/
theorem assignments_eq_nil_iff (hschema : resolve files requested = .ok schema)
    (hentity : entity ∈ schema.entities)
    (hupdate : entity.methods.at? .update = some operation)
    (hinput : IsWritten entity operation.request input)
    (hdata : HoldsFields data operation.request) {changes : Changes}
    (hchanges : changes? entity operation.request data = some changes) :
    changes.assignments = [] ↔ ∀ field ∈ entity.fields, field.isTimestamp = false →
      ∀ optional, Declares input field.name optional →
        field.isEnum = false ∧ optional = true ∧
          (data (fieldIdentifier field.name)).toValue = .null := by
  have hnone : changes.assignments = [] ↔
      ∀ field ∈ storedFields entity, sent? entity data field = none := by
    rw [assignments_of_changes? hchanges, List.filterMap_eq_nil_iff]
    simp only [Option.map_eq_none_iff]
  rw [hnone]
  simp only [mem_storedFields, and_imp]
  refine forall_congr' fun field ↦ forall₂_congr fun hmember hstored ↦ ?_
  have hfield := mem_storedFields.mpr ⟨hmember, hstored⟩
  have hsent (value : Value) : sent? entity data field = some value ↔
      ∃ optional, Declares input field.name optional ∧
        IsSent entity field optional (data (fieldIdentifier field.name)) value :=
    sent?_eq_some_iff hschema hentity hupdate hinput hdata hfield
  have hcodec (henum : field.isEnum = true) : ∃ codec, fieldCodec? entity field = some codec := by
    obtain ⟨codec, defined, hcodec, hdefined⟩ := exists_codecOf hschema hentity hmember henum
    exact ⟨defined, fieldCodec?_eq_some hcodec hdefined⟩
  have habsent (optional : Bool) (hdeclared : Declares input field.name optional) :
      (∀ value, ¬ IsSent entity field optional (data (fieldIdentifier field.name)) value) ↔
        field.isEnum = false ∧ optional = true ∧
          (data (fieldIdentifier field.name)).toValue = .null := by
    obtain ⟨inRequest, hfound, rfl⟩ := (hinput.declares_iff hdata hfield).mp hdeclared
    exact forall_not_isSent_iff hcodec (hinput.type_eq_of_field? hdata hmember hfound)
  rw [Option.eq_none_iff_forall_ne_some]
  constructor
  · intro hnothing optional hdeclared
    refine (habsent optional hdeclared).mp fun value hvalue ↦ ?_
    exact hnothing value ((hsent value).mpr ⟨optional, hdeclared, hvalue⟩)
  · intro hall value hvalue
    obtain ⟨optional, hdeclared, hvalue⟩ := (hsent value).mp hvalue
    exact (habsent optional hdeclared).mpr (hall optional hdeclared) value hvalue

/-- An update with an id is refused if and only if it has nothing to write. -/
theorem run_update_eq_nothingToUpdate_iff {α σ : Type} (mapping : Mapping α) (backend : Backend σ)
    (state : σ) {id : String} (hid : id ≠ "") (changes : Changes) :
    ((update mapping id changes).run backend state).1 = .error .nothingToUpdate ↔
      changes.assignments = [] := by
  constructor
  · intro hrefused
    by_contra hchanges
    have hvalid : (Operation.update id changes).IsValid (backend.freshId state).1 :=
      ⟨hid, hchanges⟩
    refine status?_ne_invalidArgument mapping backend state hvalid ?_
    rw [Operation.session, Session.run_map, status?_map, hrefused]
    rfl
  · intro hnothing
    rw [update, if_neg hid, if_pos (List.isEmpty_iff.mpr hnothing)]
    rfl

/--
The code of an entity is read back as a file with a function for the update, under the name of its
method and with the type of its request. The assignments that the body of the function makes, with
the codecs of the file, are the values that its request has for stored fields, in the order of
declaration and without repetition: for each field that the message of the request declares so that
one column can hold it, the value, the text of an enum, or an optional value that is present. There
are none if and only if the message has no enum and no field that is always there among the fields
of the entity, and all its optional ones are absent; then, and only then, an update with an id is
refused for having no fields. The names of the fields are distinct, as in every message.
-/
theorem changes_areThoseSent {options : Generate.Options} {text : List Code.Token}
    (hschema : resolve files requested = .ok schema)
    (hentity : entity ∈ schema.entities) (hnames : (entity.fields.map (·.name)).Nodup)
    (hupdate : entity.methods.at? .update = some operation)
    (htext : Generate.entityCode options entity = .ok text)
    (hdata : HoldsFields data operation.request) :
    ∃ (file : Generate.EntityText) (request : List Code.Token) (plan : UpdatePlan)
      (input : Message) (changes : Changes),
      file.IsReadFrom text ∧
      Generate.messageType options operation.method.input entity.package = .ok request ∧
      file.Defines (fieldIdentifier operation.method.name) request (.update plan) ∧
      plan.changes? file.record.codec? data = some changes ∧
      operation.input? files = some input ∧
      AreThoseSent entity input data changes.assignments ∧
      (changes.assignments = [] ↔ ∀ field ∈ entity.fields, field.isTimestamp = false →
        ∀ optional, Declares input field.name optional →
          field.isEnum = false ∧ optional = true ∧
            (data (fieldIdentifier field.name)).toValue = .null) ∧
      ∀ (α σ : Type) (mapping : Mapping α) (backend : Backend σ) (state : σ) (id : String),
        id ≠ "" →
          (((update mapping id changes).run backend state).1 = .error .nothingToUpdate ↔
            changes.assignments = []) := by
  obtain ⟨file, request, hread, hrecord, hrequest, hdefines⟩ :=
    Generate.exists_defines htext hupdate
  obtain ⟨input, hmessage, hinput⟩ := exists_input hschema hentity hnames (by decide) hupdate
  obtain ⟨changes, hchanges⟩ := exists_changes hschema hentity hupdate hinput hdata
  have hplan : (updatePlan entity operation.request).changes? file.record.codec? data =
      some changes := by
    rwa [hrecord, funext (codec?_ofEntity entity)]
  exact ⟨file, request, _, input, changes, hread, hrequest, hdefines, hplan, hmessage,
    areThoseSent_changes hschema hentity hnames hupdate hinput hdata hchanges,
    assignments_eq_nil_iff hschema hentity hupdate hinput hdata hchanges,
    fun _ _ mapping backend state _ hid ↦
      run_update_eq_nothingToUpdate_iff mapping backend state hid changes⟩

end Resolved

/-! ## Parcels -/

def parcelMessage : List Descriptor.Field :=
  [plainField "id" .string "", plainField "title" .string "", optionalField "note" .string "",
    plainField "memo" .string "", plainField "stage" .enum ".shop.Stage",
    plainField "weight" .int32 "", plainField "due" .message timestampName]

def parcelRequest : List Descriptor.Field :=
  [plainField "id" .string "", optionalField "stage" .enum ".shop.Stage",
    ⟨"weight", .repeated, .int32, "", false, false⟩, optionalField "note" .string "",
    optionalField "memo" .string "", plainField "title" .string "",
    plainField "due" .message timestampName, optionalField "updated_by" .string ""]

/--
A file with parcels. The request that changes one has the fields in another order and its weights
in a list, and may leave out the stage, the note and the memo.
-/
def parcelFile : Descriptor.File where
  name := "parcels.proto"
  package := "shop"
  messages :=
    [.mk "Parcel" parcelMessage [] [], .mk "UpdateParcelRequest" parcelRequest [] []]
  enums := [⟨"Stage", [⟨"STAGE_NEW", 0⟩, ⟨"STAGE_DONE", 1⟩]⟩]
  services :=
    [⟨"Parcels", [⟨"UpdateParcel", ".shop.UpdateParcelRequest", ".shop.Parcel", false, false⟩]⟩]

/-- The data of a request with a title and a memo, and without a note and a stage. -/
def parcelData : RequestData
  | "title" => ⟨.text, "Books"⟩
  | "stage" => ⟨.optional .int32, none⟩
  | "memo" => ⟨.optional .text, some "fragile"⟩
  | "due" => ⟨.optional .timestamp, none⟩
  | _ => ⟨.optional .text, none⟩

def parcelFields : List Field :=
  [⟨"title", "title", .scalar .string, false⟩, ⟨"note", "note", .scalar .string, true⟩,
    ⟨"memo", "memo", .scalar .string, false⟩, ⟨"stage", "stage", .enum ".shop.Stage", false⟩,
    ⟨"weight", "weight", .scalar .int32, false⟩, ⟨"due", "due", .timestamp, true⟩]

set_option synthInstance.maxSize 256 in
theorem exists_parcel : ∃ schema entity operation,
    resolve [parcelFile] ["parcels.proto"] = .ok schema ∧ entity ∈ schema.entities ∧
      entity.fields = parcelFields ∧
      (entity.message? [parcelFile]).map Message.fields = some parcelMessage ∧
      entity.methods.at? .update = some operation ∧
      operation.input? [parcelFile] = some (.mk "UpdateParcelRequest" parcelRequest [] []) ∧
      operation.request.fields = columnFields parcelRequest := by
  have hread : (resolve [parcelFile] ["parcels.proto"]).toOption.map (fun schema ↦
      schema.entities.map fun entity ↦ (entity.fields,
        (entity.message? [parcelFile]).map Message.fields,
        (entity.methods.at? .update).map fun operation ↦
          (operation.method.input.fullName, operation.request.fields))) =
      some [(parcelFields, some parcelMessage,
        some (".shop.UpdateParcelRequest", columnFields parcelRequest))] := by
    decide +kernel
  obtain ⟨schema, entity, hschema, hentity, hparts⟩ := exists_entity hread
  obtain ⟨hfields, hparts⟩ := Prod.mk.inj hparts
  obtain ⟨hmessage, hupdate⟩ := Prod.mk.inj hparts
  obtain ⟨operation, hoperation, hparts⟩ := Option.map_eq_some_iff.mp hupdate
  obtain ⟨hname, hrequest⟩ := Prod.mk.inj hparts
  refine ⟨schema, entity, operation, hschema, hentity ▸ List.mem_cons_self, hfields, hmessage,
    hoperation, ?_, hrequest⟩
  rw [CrudMethod.input?, hname]
  rfl

theorem holdsFields_parcel {request : RequestShape}
    (hrequest : request.fields = columnFields parcelRequest) : HoldsFields parcelData request := by
  have hall : ∀ field ∈ columnFields parcelRequest,
      (parcelData (fieldIdentifier field.name)).type = heldType field := by
    decide +kernel
  rwa [← hrequest] at hall

/-- The message that changes a parcel declares the memo and the note with presence. -/
theorem declares_parcel {input : Message} (hinput : input.fields = parcelRequest) :
    Declares input "memo" true ∧ ¬ Declares input "note" false := by
  unfold Declares
  rw [hinput]
  refine ⟨⟨optionalField "memo" .string "", by decide, rfl, ?_, rfl⟩, ?_⟩
  · exact exists_ofDescriptor_iff.mp ⟨_, rfl⟩
  · rintro ⟨descriptor, hdescriptor, hname, -, hplain⟩
    have hnote : ∀ descriptor ∈ parcelRequest, descriptor.name = "note" →
        descriptor.optional = true := by
      decide
    cases hplain.symm.trans (hnote descriptor hdescriptor hname)

theorem isSent_memo (entity : Entity) {field : Field} (hname : field.name = "memo")
    (henum : field.isEnum = false) :
    IsSent entity field true (parcelData (fieldIdentifier field.name)) (.text "fragile") := by
  have hidentifier : fieldIdentifier "memo" = "memo" := by decide +kernel
  rw [hname, hidentifier]
  exact @IsSent.present entity field henum .text "fragile"

/-- Nothing is sent for a note that is absent. -/
theorem not_isSent_note {entity : Entity} {field : Field} (hname : field.name = "note")
    {value : Value} :
    ¬ IsSent entity field true (parcelData (fieldIdentifier field.name)) value := by
  have hidentifier : fieldIdentifier "note" = "note" := by decide +kernel
  rw [hname, hidentifier]
  rintro ⟨⟩

/-- The code of a parcel can be made. -/
theorem exists_parcelCode {schema : Resolution}
    (hschema : resolve [parcelFile] ["parcels.proto"] = .ok schema) {entity : Entity}
    (hentity : entity ∈ schema.entities) :
    ∃ text, Generate.entityCode .default entity = .ok text := by
  have hplain : IsPlainlyNamed [parcelFile] := by
    refine ⟨?_, ?_, ?_, ?_, ?_⟩ <;> refine List.forall_mem_singleton.mpr ?_ <;> decide +kernel
  exact Generate.exists_entityCode hplain (by decide +kernel) (by decide +kernel) hschema hentity

/-- The update writes the memo, which is there, and not the note, which is absent. -/
theorem areThoseSent_parcel :
    ∃ (schema : Resolution) (entity : Entity) (operation : CrudMethod) (text : List Code.Token)
      (file : Generate.EntityText) (request : List Code.Token) (plan : UpdatePlan)
      (input : Message) (changes : Changes),
      resolve [parcelFile] ["parcels.proto"] = .ok schema ∧ entity ∈ schema.entities ∧
        entity.methods.at? .update = some operation ∧
        Generate.entityCode .default entity = .ok text ∧ file.IsReadFrom text ∧
        file.Defines (fieldIdentifier operation.method.name) request (.update plan) ∧
        plan.changes? file.record.codec? parcelData = some changes ∧
        operation.input? [parcelFile] = some input ∧
        AreThoseSent entity input parcelData changes.assignments ∧
        ("memo", .text "fragile") ∈ changes.assignments ∧
        ∀ value, ("note", value) ∉ changes.assignments := by
  obtain ⟨schema, entity, operation, hschema, hentity, hfields, -, hupdate, hmessage, hrequest⟩ :=
    exists_parcel
  have hnames : (entity.fields.map (·.name)).Nodup := by
    rw [hfields]
    decide
  obtain ⟨text, htext⟩ := exists_parcelCode hschema hentity
  obtain ⟨file, request, plan, input, changes, hread, -, hdefines, hchanges, hinput, hsent, -⟩ :=
    changes_areThoseSent hschema hentity hnames hupdate htext (holdsFields_parcel hrequest)
  have hdeclared : input.fields = parcelRequest :=
    congrArg Message.fields (Option.some.inj (hinput.symm.trans hmessage))
  obtain ⟨hmemo, hnote⟩ := declares_parcel hdeclared
  refine ⟨schema, entity, operation, text, file, request, plan, input, changes, hschema, hentity,
    hupdate, htext, hread, hdefines, hchanges, hinput, hsent, (hsent.mem_iff _ _).mpr ?_,
    fun value hmem ↦ ?_⟩
  · exact ⟨⟨"memo", "memo", .scalar .string, false⟩, by rw [hfields]; decide, rfl, rfl, true, hmemo,
      isSent_memo entity rfl rfl⟩
  · obtain ⟨field, -, hname, -, optional, hown, hvalue⟩ := (hsent.mem_iff _ _).mp hmem
    cases optional with
    | false => exact hnote (hname ▸ hown)
    | true => exact not_isSent_note hname hvalue

end ProtoCrud.Handler
