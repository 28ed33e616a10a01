import Mathlib.Data.List.Nodup
import ProtoCrud.Proofs.Generate.EntityText
import ProtoCrud.Proofs.Schema.DeclaredTypes
import ProtoCrud.Proofs.Schema.EnumStorage

/-!
# The codecs that generated code uses

Reading a row, a create and an update all use the codec that an enum field is given, and the file of
an entity defines that codec once. It is the codec of the enum of the field if and only if distinct
enums of the entity are given distinct names. An enum whose path is spelt like that of another one
is named after its full name, and such a name can be that of yet another enum.
-/

namespace ProtoCrud.Schema

open Descriptor (File Message)

/-! ## Enums of the fields of an entity -/

/-- An enum of the index has the name that it is found under. -/
theorem fullName_of_enum? {files : List File} {name : String} {definition : EnumDef}
    (h : (TypeIndex.ofFiles files).enum? name = some definition) : definition.fullName = name := by
  obtain ⟨place, enum, -, hname, rfl⟩ := exists_place_of_enum? h
  exact hname

theorem enumName?_eq_some {field : Field} {name : String} :
    field.enumName? = some name ↔ field.type = .enum name := by
  rw [Field.enumName?]
  cases field.type <;> simp

theorem keys_declareEnum {enums : List (String × EnumDef)} (name : String)
    (definition : EnumDef) (h : (enums.map Prod.fst).Nodup) :
    ((declareEnum enums name definition).map Prod.fst).Nodup ∧
      ∀ key, key ∈ (declareEnum enums name definition).map Prod.fst ↔
        key = name ∨ key ∈ enums.map Prod.fst := by
  rw [declareEnum]
  split
  · next hdeclared =>
    obtain ⟨existing, hexisting⟩ := Option.isSome_iff_exists.mp hdeclared
    have hmem : name ∈ enums.map Prod.fst := List.mem_map_of_mem (mem_of_lookup hexisting)
    refine ⟨h, fun key ↦ ⟨.inr, ?_⟩⟩
    rintro (rfl | hkey)
    · exact hmem
    · exact hkey
  · next hfresh =>
    have hnotMem : name ∉ enums.map Prod.fst := fun hmem ↦ by
      obtain ⟨_, hlookup⟩ := exists_lookup hmem
      simp [hlookup] at hfresh
    rw [List.map_append, List.map_singleton]
    refine ⟨?_, fun key ↦ by rw [List.mem_append, List.mem_singleton, or_comm]⟩
    refine List.nodup_append.mpr ⟨h, List.pairwise_singleton _ _, fun key hkey other hother ↦ ?_⟩
    intro heq
    have hname : key = name := heq.trans (List.mem_singleton.mp hother)
    exact hnotMem (hname ▸ hkey)

/-- The enums taken up so far are those of the stored fields, each of them once. -/
structure Fields.EnumsAreThoseOfFields (fields : Fields) : Prop where
  nodup : (fields.enums.map Prod.fst).Nodup
  mem_iff : ∀ name, name ∈ fields.enums.map Prod.fst ↔
    ∃ field ∈ fields.stored, field.type = .enum name

theorem Fields.EnumsAreThoseOfFields.add {index : TypeIndex} {fields next : Fields}
    {field : Field} (h : fields.EnumsAreThoseOfFields) (hadd : fields.add index field = .ok next) :
    next.EnumsAreThoseOfFields := by
  rcases Fields.add_cases hadd with ⟨-, rfl⟩ | rfl | ⟨hname, rfl⟩ |
    ⟨name, definition, hname, -, -, rfl⟩
  · exact ⟨h.nodup, h.mem_iff⟩
  · exact ⟨h.nodup, h.mem_iff⟩
  · refine ⟨h.nodup, fun name ↦ ?_⟩
    have hother : field.type ≠ .enum name := fun htype ↦ by
      rw [enumName?_eq_some.mpr htype] at hname
      cases hname
    simp [h.mem_iff, or_and_right, exists_or, hother]
  · obtain ⟨hnodup, hkeys⟩ := keys_declareEnum name definition h.nodup
    refine ⟨hnodup, fun key ↦ ?_⟩
    rw [hkeys, h.mem_iff]
    simp [or_and_right, exists_or, enumName?_eq_some.mp hname, or_comm, eq_comm]

variable {files : List File} {requested : List String} {schema : Resolution} {entity : Entity}

/-- The enums of a resolved entity are those of its fields, each of them once. -/
theorem resolve_enums_fields (h : resolve files requested = .ok schema)
    (hentity : entity ∈ schema.entities) :
    (entity.enums.map Prod.fst).Nodup ∧
      ∀ name, name ∈ entity.enums.map Prod.fst ↔
        ∃ field ∈ entity.fields, field.type = .enum name := by
  obtain ⟨_, _, _, hresolve⟩ := exists_resolveEntity h hentity
  obtain ⟨_, fields, _, -, hfields, -, -, rfl⟩ := resolveEntity_cases hresolve
  have hnone : ({} : Fields).EnumsAreThoseOfFields := ⟨List.nodup_nil, fun _ ↦ by simp⟩
  have hall : fields.EnumsAreThoseOfFields :=
    Fields.addAll_induction (fun _ _ _ _ _ _ h hadd ↦ h.add hadd) hnone hfields
  exact ⟨hall.nodup, hall.mem_iff⟩

end ProtoCrud.Schema

namespace ProtoCrud.Handler

open Schema

/-! ## Codecs that code uses -/

def FieldValue.codec? : FieldValue → Option String
  | .decoded _ codec _ => some codec
  | _ => none

def CreateValue.codec? : CreateValue → Option String
  | .codecDefault codec => some codec
  | .encodedOrDefault codec _ => some codec
  | .encoded codec _ => some codec
  | _ => none

def UpdateValue.codec? : UpdateValue → Option String
  | .encodedOrZero codec _ => some codec
  | .encoded codec _ => some codec
  | _ => none

def targetField? : ScanTarget → Option Field
  | .slot field => some field
  | .enumHolder field _ _ => some field
  | .audit .. => none

inductive UsesCodec (entity : Entity) (field : Field) (codec : String) : Prop where
  /-- A row is read with it. -/
  | reading {target : ScanTarget} {init : FieldInit}
      (htarget : target ∈ entity.classify.scanTargets) (hfield : targetField? target = some field)
      (hinit : (readTarget target).2 = some init) (hcodec : init.value.codec? = some codec)
  /-- A create writes with it. -/
  | create {request : RequestShape} (hrequest : entity.request? .create = some request)
      (hcodec : (createValue entity field (request.field? field.name)).codec? = some codec)
  /-- An update writes with it. -/
  | update {request : RequestShape} {assignment : Assignment}
      (hrequest : entity.request? .update = some request)
      (hassignment : assignment? entity (entity.classifyField field) = some assignment)
      (hcodec : assignment.value.codec? = some codec)

variable {entity : Entity} {field : Field} {codec : String}

/-- A column is read for a field with the codec of the field, if it has one. -/
theorem mem_fieldTargets {target : ScanTarget} {taken : List String} {fields : List Field}
    (h : target ∈ fieldTargets entity taken fields) :
    (∃ field holder codec, target = .enumHolder field holder codec ∧
        entity.codecOf? field = some codec) ∨
      ∃ field, target = .slot field ∧ entity.codecOf? field = none := by
  induction fields generalizing taken with
  | nil => cases h
  | cons field rest ih =>
    rw [fieldTargets] at h
    split at h
    · next codec hcodec =>
      rcases List.mem_cons.mp h with rfl | h
      · exact .inl ⟨field, _, codec, rfl, hcodec⟩
      · exact ih h
    · next hcodec =>
      rcases List.mem_cons.mp h with rfl | h
      · exact .inr ⟨field, rfl, hcodec⟩
      · exact ih h

/-- Every field with a codec is read with it. -/
theorem exists_fieldTarget {taken : List String} {fields : List Field} (hfield : field ∈ fields)
    (hcodec : entity.codecOf? field = some codec) :
    ∃ holder, .enumHolder field holder codec ∈ fieldTargets entity taken fields := by
  induction fields generalizing taken with
  | nil => cases hfield
  | cons first rest ih =>
    rw [fieldTargets]
    rcases List.mem_cons.mp hfield with rfl | hfield
    · rw [hcodec]
      exact ⟨_, List.mem_cons_self⟩
    · split
      · obtain ⟨holder, hmem⟩ := ih hfield
        exact ⟨holder, List.mem_cons_of_mem _ hmem⟩
      · obtain ⟨holder, hmem⟩ := ih hfield
        exact ⟨holder, List.mem_cons_of_mem _ hmem⟩

theorem mem_scanTargets {target : ScanTarget} :
    target ∈ entity.classify.scanTargets ↔
      target = .audit idColumn .text (some false) ∨
        target ∈ fieldTargets entity (entity.fields.map fun field ↦ Text.snakeCase field.name)
          (entity.fields.filter (!·.isTimestamp)) ∨
        ∃ column ∈ auditTail,
          target = .audit column (auditKind column) (entity.audit.get column) := by
  simp [Entity.classify, eq_comm]

theorem codec?_createValue {inRequest : Option Field}
    (h : (createValue entity field inRequest).codec? = some codec) :
    entity.codecOf? field = some codec := by
  unfold createValue at h
  dsimp only at h
  split at h
  · split at h
    · cases h
    · split at h
      · next hcodec =>
        cases h
        exact hcodec
      · cases h
  · next hcodec =>
    split at h <;> cases h <;> exact hcodec
  · cases h

theorem codec?_assignment {classified : ClassifiedField} {assignment : Assignment}
    (hassignment : assignment? entity classified = some assignment)
    (h : assignment.value.codec? = some codec) :
    entity.codecOf? classified.field = some codec := by
  obtain ⟨value, hvalue, rfl⟩ := Option.map_eq_some_iff.mp hassignment
  dsimp only at h
  split at hvalue
  · cases hvalue
  · next hcodec _ =>
    cases hvalue
    split at h <;> cases h <;> exact hcodec
  · cases hvalue
    cases h
  · cases hvalue
    cases h

/-- Whatever uses a codec for a field uses the one that the field is given. -/
theorem usesCodec_iff (hfield : field ∈ entity.fields) (hstored : field.isTimestamp = false) :
    UsesCodec entity field codec ↔ entity.codecOf? field = some codec := by
  constructor
  · rintro (⟨htarget, htargetField, hinit, hcodec⟩ | ⟨-, hcodec⟩ | ⟨-, hassignment, hcodec⟩)
    · rcases mem_scanTargets.mp htarget with rfl | htarget | ⟨column, -, rfl⟩
      · cases htargetField
      · rcases mem_fieldTargets htarget with ⟨other, holder, own, rfl, hown⟩ | ⟨other, rfl, -⟩
        · cases htargetField
          cases hinit
          cases hcodec
          exact hown
        · cases hinit
          cases hcodec
      · cases htargetField
    · exact codec?_createValue hcodec
    · exact codec?_assignment hassignment hcodec
  · intro hcodec
    have hmem : field ∈ entity.fields.filter (!·.isTimestamp) :=
      List.mem_filter.mpr ⟨hfield, by simp [hstored]⟩
    obtain ⟨holder, hmem⟩ := exists_fieldTarget hmem hcodec
    exact .reading (mem_scanTargets.mpr (.inr (.inl hmem))) rfl rfl rfl

end ProtoCrud.Handler

namespace ProtoCrud.Generate

open Handler Schema

/-! ## Codecs that code defines -/

/-- The enums of the stored fields, each under the name of its codec. -/
def namedEnums (entity : Entity) : List (String × EnumDef) :=
  entity.classify.fields.filterMap fun classified ↦ do
    let enumName ← classified.field.enumName?
    let codec ← entity.codecName? enumName
    let definition ← entity.enums.lookup enumName
    some (codec, definition)

theorem codecs_eq (entity : Entity) :
    codecs entity = ((namedEnums entity).map Prod.fst).eraseDups.mergeSort.filterMap fun codec ↦
      ((namedEnums entity).lookup codec).map (codec, ·) :=
  rfl

/-- A list of entries with the given keys, which are all found. -/
theorem map_fst_filterMap_lookup {β : Type} {entries : List (String × β)} {keys : List String}
    (hkeys : ∀ key ∈ keys, key ∈ entries.map Prod.fst) :
    (keys.filterMap fun key ↦ (entries.lookup key).map (key, ·)).map Prod.fst = keys := by
  induction keys with
  | nil => rfl
  | cons key keys ih =>
    obtain ⟨value, hvalue⟩ := exists_lookup (hkeys key List.mem_cons_self)
    rw [List.filterMap_cons, hvalue, Option.map_some, List.map_cons,
      ih fun other hother ↦ hkeys other (List.mem_cons_of_mem _ hother)]

/-- The codecs that are defined are those of the named enums, each of them once. -/
theorem map_fst_codecs_perm (entity : Entity) :
    ((codecs entity).map Prod.fst).Perm ((namedEnums entity).map Prod.fst).eraseDups := by
  rw [codecs_eq, map_fst_filterMap_lookup fun key hkey ↦ by simpa using hkey]
  exact List.mergeSort_perm _ _

theorem nodup_codecs (entity : Entity) : ((codecs entity).map Prod.fst).Nodup :=
  (map_fst_codecs_perm entity).nodup_iff.mpr (nodup_eraseDups _)

/-- A codec has the table of the first enum that is named so. -/
theorem lookup_codecs {entity : Entity} {codec : String}
    (h : codec ∈ (namedEnums entity).map Prod.fst) :
    (codecs entity).lookup codec = (namedEnums entity).lookup codec := by
  obtain ⟨definition, hdefinition⟩ := exists_lookup h
  rw [hdefinition]
  refine lookup_of_mem (nodup_codecs entity) ?_
  rw [codecs_eq, List.mem_filterMap]
  exact ⟨codec, by simpa using h, by rw [hdefinition, Option.map_some]⟩

variable {files : List Descriptor.File} {requested : List String} {schema : Resolution}
  {entity : Entity}

/-- An enum field of a resolved entity has an enum of the index with values. -/
theorem exists_enum (hschema : resolve files requested = .ok schema)
    (hentity : entity ∈ schema.entities) {field : Field} (hfield : field ∈ entity.fields)
    {name : String} (htype : field.type = .enum name) :
    ∃ definition, entity.enums.lookup name = some definition ∧
      (TypeIndex.ofFiles files).enum? name = some definition ∧ definition.variants ≠ [] := by
  have hmem := ((resolve_enums_fields hschema hentity).2 name).mpr ⟨field, hfield, htype⟩
  obtain ⟨definition, hdefinition⟩ := exists_lookup hmem
  exact ⟨definition, hdefinition, resolve_enums hschema hentity _ (mem_of_lookup hdefinition)⟩

/-- The named enums are those of the enum fields. -/
theorem mem_namedEnums {codec : String} {definition : EnumDef} :
    (codec, definition) ∈ namedEnums entity ↔
      ∃ field ∈ entity.fields, ∃ name, field.type = .enum name ∧
        entity.codecName? name = some codec ∧ entity.enums.lookup name = some definition := by
  rw [namedEnums, List.mem_filterMap]
  constructor
  · rintro ⟨classified, hclassified, hnamed⟩
    obtain ⟨field, hfield, rfl⟩ := List.mem_map.mp hclassified
    obtain ⟨name, hname, hnamed⟩ := Option.bind_eq_some_iff.mp hnamed
    obtain ⟨other, hcodec, hnamed⟩ := Option.bind_eq_some_iff.mp hnamed
    obtain ⟨found, hdefinition, hnamed⟩ := Option.bind_eq_some_iff.mp hnamed
    cases hnamed
    exact ⟨field, (List.mem_filter.mp hfield).1, name, enumName?_eq_some.mp hname, hcodec,
      hdefinition⟩
  · rintro ⟨field, hfield, name, htype, hcodec, hdefinition⟩
    have hstored : field ∈ entity.fields.filter (!·.isTimestamp) :=
      List.mem_filter.mpr ⟨hfield, by simp [Field.isTimestamp, htype]⟩
    refine ⟨entity.classifyField field, List.mem_map_of_mem hstored, ?_⟩
    have hname : (entity.classifyField field).field.enumName? = some name :=
      enumName?_eq_some.mpr htype
    rw [hname, Option.bind_eq_bind, Option.bind_some, hcodec, Option.bind_eq_bind,
      Option.bind_some, hdefinition]
    rfl

/-! ## Distinct names -/

def PathCollides (entity : Entity) (enum : String × EnumDef) : Prop :=
  ∃ other ∈ entity.enums, other.1 ≠ enum.1 ∧ pathConstant other.2.path = pathConstant enum.2.path

/--
The full names that stand in for colliding paths collide neither with each other nor with the path
of an enum that goes by its path.
-/
structure CodecNamesAreDistinct (entity : Entity) : Prop where
  fullName_ne_fullName : ∀ enum ∈ entity.enums, ∀ other ∈ entity.enums, enum.1 ≠ other.1 →
    PathCollides entity enum → PathCollides entity other →
      fullNameConstant enum.1 ≠ fullNameConstant other.1
  fullName_ne_path : ∀ enum ∈ entity.enums, ∀ other ∈ entity.enums,
    PathCollides entity enum → ¬ PathCollides entity other →
      fullNameConstant enum.1 ≠ pathConstant other.2.path

theorem codecName?_eq {enum : String × EnumDef} [Decidable (PathCollides entity enum)]
    (hfound : entity.enums.lookup enum.1 = some enum.2) :
    entity.codecName? enum.1 =
      some (if PathCollides entity enum then fullNameConstant enum.1
        else pathConstant enum.2.path) := by
  rw [Entity.codecName?, hfound, Option.map_some]
  congr 1
  refine if_congr ?_ rfl rfl
  simp [PathCollides]

/-- Distinct enums have distinct codecs if and only if the names that stand in are distinct. -/
theorem codecNamesAreDistinct_iff (hnodup : (entity.enums.map Prod.fst).Nodup) :
    CodecNamesAreDistinct entity ↔ ∀ enum ∈ entity.enums, ∀ other ∈ entity.enums,
      entity.codecName? enum.1 = entity.codecName? other.1 → enum.1 = other.1 := by
  classical
  have hname (enum : String × EnumDef) (henum : enum ∈ entity.enums) :=
    codecName?_eq (lookup_of_mem hnodup henum)
  constructor
  · intro hdistinct enum henum other hother heq
    by_contra hne
    rw [hname enum henum, hname other hother, Option.some.injEq] at heq
    split at heq
    · next hcollides =>
      split at heq
      · next hother' =>
        exact hdistinct.fullName_ne_fullName enum henum other hother hne hcollides hother' heq
      · next hother' =>
        exact hdistinct.fullName_ne_path enum henum other hother hcollides hother' heq
    · next hfree =>
      split at heq
      · next hother' =>
        exact hdistinct.fullName_ne_path other hother enum henum hother' hfree heq.symm
      · exact hfree ⟨other, hother, Ne.symm hne, heq.symm⟩
  · intro hinjective
    refine ⟨fun enum henum other hother hne hcollides hother' heq ↦ hne ?_,
      fun enum henum other hother hcollides hother' heq ↦ ?_⟩
    · apply hinjective enum henum other hother
      rw [hname enum henum, hname other hother, if_pos hcollides, if_pos hother', heq]
    · have hsame := hinjective enum henum other hother (by
        rw [hname enum henum, hname other hother, if_pos hcollides, if_neg hother', heq])
      have hfound := lookup_of_mem hnodup henum
      rw [hsame, lookup_of_mem hnodup hother, Option.some.injEq] at hfound
      exact hother' (Prod.ext hsame hfound.symm ▸ hcollides)

/-- The codec that is used for an enum field is defined once. -/
theorem exists_codec (hschema : resolve files requested = .ok schema)
    (hentity : entity ∈ schema.entities) {field : Field} (hfield : field ∈ entity.fields)
    {name : String} (htype : field.type = .enum name) :
    ∃ codec, entity.codecName? name = some codec ∧
      (∀ used, UsesCodec entity field used ↔ used = codec) ∧
      ((codecs entity).map Prod.fst).count codec = 1 := by
  obtain ⟨definition, hdefinition, -⟩ := exists_enum hschema hentity hfield htype
  obtain ⟨codec, hcodec⟩ : ∃ codec, entity.codecName? name = some codec := by
    rw [Entity.codecName?, hdefinition]
    exact ⟨_, rfl⟩
  have hstored : field.isTimestamp = false := by
    simp [Field.isTimestamp, htype]
  refine ⟨codec, hcodec, fun used ↦ ?_, ?_⟩
  · rw [usesCodec_iff hfield hstored, Entity.codecOf?, enumName?_eq_some.mpr htype,
      Option.bind_some, hcodec, Option.some.injEq, eq_comm]
  · refine List.count_eq_one_of_mem (nodup_codecs entity) ?_
    rw [(map_fst_codecs_perm entity).mem_iff, List.mem_eraseDups]
    exact List.mem_map_of_mem
      (mem_namedEnums.mpr ⟨field, hfield, name, htype, hcodec, hdefinition⟩)

/-- If distinct enums have distinct codecs, a codec has the table of the enum it is named for. -/
theorem lookup_codecs_eq (hschema : resolve files requested = .ok schema)
    (hentity : entity ∈ schema.entities) (hdistinct : CodecNamesAreDistinct entity)
    {field : Field} (hfield : field ∈ entity.fields) {name codec : String}
    (htype : field.type = .enum name) (hcodec : entity.codecName? name = some codec) :
    (codecs entity).lookup codec = (TypeIndex.ofFiles files).enum? name := by
  obtain ⟨definition, hdefinition, hindexed, -⟩ := exists_enum hschema hentity hfield htype
  have hnamed : (codec, definition) ∈ namedEnums entity :=
    mem_namedEnums.mpr ⟨field, hfield, name, htype, hcodec, hdefinition⟩
  have hkey : codec ∈ (namedEnums entity).map Prod.fst := List.mem_map_of_mem hnamed
  obtain ⟨first, hfirst⟩ := exists_lookup hkey
  rw [lookup_codecs hkey, hfirst, hindexed]
  -- The first enum with this codec has the name of the field's own enum.
  obtain ⟨_, -, other, -, hother, hfound⟩ := mem_namedEnums.mp (mem_of_lookup hfirst)
  have hnodup := (resolve_enums_fields hschema hentity).1
  have hsame : other = name :=
    (codecNamesAreDistinct_iff hnodup).mp hdistinct _ (mem_of_lookup hfound) _
      (mem_of_lookup hdefinition) (hother.trans hcodec.symm)
  rw [hsame, hdefinition] at hfound
  exact hfound.symm

/-- Whether what uses a codec for an enum field uses the one of the enum of the field. -/
def UsesOwnCodecs (index : TypeIndex) (entity : Entity) : Prop :=
  ∀ field ∈ entity.fields, ∀ name codec, field.type = .enum name →
    UsesCodec entity field codec → (codecs entity).lookup codec = index.enum? name

theorem usesOwnCodecs_of_distinct (hschema : resolve files requested = .ok schema)
    (hentity : entity ∈ schema.entities) (hdistinct : CodecNamesAreDistinct entity) :
    UsesOwnCodecs (TypeIndex.ofFiles files) entity := by
  intro field hfield name codec htype hcodec
  obtain ⟨own, hown, hused, -⟩ := exists_codec hschema hentity hfield htype
  rw [(hused codec).mp hcodec]
  exact lookup_codecs_eq hschema hentity hdistinct hfield htype hown

theorem distinct_of_usesOwnCodecs (hschema : resolve files requested = .ok schema)
    (hentity : entity ∈ schema.entities) (hown : UsesOwnCodecs (TypeIndex.ofFiles files) entity) :
    CodecNamesAreDistinct entity := by
  obtain ⟨hnodup, hmem⟩ := resolve_enums_fields hschema hentity
  rw [codecNamesAreDistinct_iff hnodup]
  intro enum henum other hother hequal
  obtain ⟨field, hfield, htype⟩ := (hmem enum.1).mp (List.mem_map_of_mem henum)
  obtain ⟨otherField, hotherField, hotherType⟩ := (hmem other.1).mp (List.mem_map_of_mem hother)
  obtain ⟨codec, hcodec, hused, -⟩ := exists_codec hschema hentity hfield htype
  obtain ⟨otherCodec, hotherCodec, hotherUsed, -⟩ :=
    exists_codec hschema hentity hotherField hotherType
  have hsame : codec = otherCodec := by
    rw [hcodec, hotherCodec] at hequal
    exact Option.some.inj hequal
  -- One codec is used for both fields, so it would have to be that of both enums.
  have htable := hown field hfield _ codec htype ((hused codec).mpr rfl)
  have hotherTable :=
    hown otherField hotherField _ codec hotherType ((hotherUsed codec).mpr hsame)
  obtain ⟨definition, -, hdefinition, -⟩ := exists_enum hschema hentity hfield htype
  have hotherDefinition : (TypeIndex.ofFiles files).enum? other.1 = some definition := by
    rw [← hotherTable, htable, hdefinition]
  rw [← fullName_of_enum? hdefinition, fullName_of_enum? hotherDefinition]

/--
The code of a resolved entity uses one codec for each enum field, which its file defines once. It
is the codec of the enum of the field, for every enum field, if and only if the full names that
stand in for colliding paths collide with nothing else. The codecs are those that can be read in the
file.
-/
theorem usesOwnCodecs_iff (hschema : resolve files requested = .ok schema)
    (hentity : entity ∈ schema.entities) :
    (∀ field ∈ entity.fields, ∀ name, field.type = .enum name →
      ∃ codec, (∀ used, UsesCodec entity field used ↔ used = codec) ∧
        ((codecs entity).map Prod.fst).count codec = 1) ∧
      (UsesOwnCodecs (TypeIndex.ofFiles files) entity ↔ CodecNamesAreDistinct entity) ∧
      ∀ options text, entityCode options entity = .ok text → ∃ file : EntityText,
        file.IsReadFrom text ∧
          file.record.codecs = (codecs entity).map fun entry ↦ .ofEnum entry.1 entry.2 := by
  refine ⟨fun field hfield name htype ↦ ?_, ⟨distinct_of_usesOwnCodecs hschema hentity,
    usesOwnCodecs_of_distinct hschema hentity⟩, fun options text htext ↦ ?_⟩
  · obtain ⟨codec, -, hused, hcount⟩ := exists_codec hschema hentity hfield htype
    exact ⟨codec, hused, hcount⟩
  · obtain ⟨file, hfile, hread⟩ := exists_entityText htext
    exact ⟨file, hread, by rw [hfile.record_eq]; rfl⟩

/-! ## Two enums in one entity -/

/--
A file with an entity that has an enum of its own, `Status`, and one declared beside it under the
given name.
-/
def statusFile (enumName : String) : Descriptor.File where
  name := "orders.proto"
  package := "shop"
  messages :=
    [.mk "Order"
        [plainField "id" .string "", plainField "status" .enum ".shop.Order.Status",
          plainField "kind" .enum (".shop." ++ enumName)]
        [] [⟨"Status", [⟨"STATUS_OPEN", 0⟩, ⟨"STATUS_PAID", 1⟩]⟩],
      .mk "GetOrderRequest" [plainField "id" .string ""] [] []]
  enums := [⟨enumName, [⟨"NEW", 0⟩, ⟨"USED", 1⟩]⟩]
  services :=
    [⟨"Orders", [⟨"GetOrder", ".shop.GetOrderRequest", ".shop.Order", false, false⟩]⟩]

/-- The two enums of an order. -/
theorem exists_order (enumName path : String)
    (h : (resolve [statusFile enumName] ["orders.proto"]).toOption.map
      (fun schema ↦ schema.entities.map fun entity ↦
        entity.enums.map fun enum ↦ (enum.1, enum.2.path)) =
          some [[(".shop.Order.Status", "order::Status"), (".shop." ++ enumName, path)]]) :
    ∃ schema entity own beside, resolve [statusFile enumName] ["orders.proto"] = .ok schema ∧
      entity ∈ schema.entities ∧
      entity.enums = [(".shop.Order.Status", own), (".shop." ++ enumName, beside)] ∧
      own.path = "order::Status" ∧ beside.path = path := by
  obtain ⟨schema, entity, hschema, hentity, henums⟩ := exists_entity h
  obtain ⟨⟨_, own⟩, others, hfirst, hown, hothers⟩ := List.map_eq_cons_iff.mp henums
  obtain ⟨⟨_, beside⟩, more, hsecond, hbeside, hmore⟩ := List.map_eq_cons_iff.mp hothers
  obtain rfl := List.map_eq_nil_iff.mp hmore
  obtain ⟨rfl, hown⟩ := Prod.mk.inj hown
  obtain ⟨rfl, hbeside⟩ := Prod.mk.inj hbeside
  exact ⟨schema, entity, own, beside, hschema, hentity ▸ List.mem_cons_self,
    by rw [hfirst, hsecond], hown, hbeside⟩

/-- Not every resolved entity uses the codecs of the enums of its fields. -/
theorem not_forall_usesOwnCodecs :
    ¬ ∀ (files : List Descriptor.File) (requested : List String) (schema : Resolution),
      resolve files requested = .ok schema →
        ∀ entity ∈ schema.entities, UsesOwnCodecs (TypeIndex.ofFiles files) entity := by
  intro hall
  obtain ⟨schema, entity, own, beside, hschema, hentity, henums, hown, hbeside⟩ :=
    exists_order "OrderStatus" "OrderStatus" (by decide +kernel)
  have hdistinct := distinct_of_usesOwnCodecs hschema hentity (hall _ _ schema hschema _ hentity)
  have hpaths : pathConstant own.path = pathConstant beside.path := by
    rw [hown, hbeside]
    decide +kernel
  have hnames : (".shop.Order.Status" : String) ≠ ".shop." ++ "OrderStatus" := by
    decide
  have hfullNames : fullNameConstant ".shop.Order.Status" =
      fullNameConstant (".shop." ++ "OrderStatus") := by
    decide +kernel
  have hownMem : (".shop.Order.Status", own) ∈ entity.enums := henums ▸ List.mem_cons_self
  have hbesideMem : (".shop." ++ "OrderStatus", beside) ∈ entity.enums :=
    henums ▸ List.mem_cons_of_mem _ List.mem_cons_self
  exact hdistinct.fullName_ne_fullName _ hownMem _ hbesideMem hnames
    ⟨_, hbesideMem, hnames.symm, hpaths.symm⟩ ⟨_, hownMem, hnames, hpaths⟩ hfullNames

/-- An order with a status of its own and a kind uses the codecs of both. -/
theorem usesOwnCodecs_orderKind :
    ∃ schema entity, resolve [statusFile "OrderKind"] ["orders.proto"] = .ok schema ∧
      entity ∈ schema.entities ∧
      UsesOwnCodecs (TypeIndex.ofFiles [statusFile "OrderKind"]) entity := by
  obtain ⟨schema, entity, own, beside, hschema, hentity, henums, hown, hbeside⟩ :=
    exists_order "OrderKind" "OrderKind" (by decide +kernel)
  have hpaths : pathConstant own.path ≠ pathConstant beside.path := by
    rw [hown, hbeside]
    decide +kernel
  have hfree (enum : String × EnumDef) (henum : enum ∈ entity.enums) :
      ¬ PathCollides entity enum := by
    rintro ⟨other, hother, hne, hpath⟩
    simp only [henums, List.mem_cons, List.not_mem_nil, or_false] at henum hother
    rcases henum with rfl | rfl <;> rcases hother with rfl | rfl
    · exact hne rfl
    · exact hpaths hpath.symm
    · exact hpaths hpath
    · exact hne rfl
  have hdistinct : CodecNamesAreDistinct entity :=
    ⟨fun enum henum _ _ _ hcollides ↦ absurd hcollides (hfree enum henum),
      fun enum henum _ _ hcollides ↦ absurd hcollides (hfree enum henum)⟩
  exact ⟨schema, entity, hschema, hentity, (usesOwnCodecs_iff hschema hentity).2.1.mpr hdistinct⟩

end ProtoCrud.Generate
