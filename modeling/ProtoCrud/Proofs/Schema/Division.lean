import Mathlib.Data.List.Nodup
import ProtoCrud.Schema.Classification

/-!
# How the fields of an entity are divided

A classification first takes the points in time out of the fields of an entity, and then gives each
remaining field a part in a create, by what the request of the create has under its name. Two lists
of names are read off the parts. Since a field is found again by its name, the names of the fields
have to be distinct.
-/

namespace ProtoCrud.Schema

/-- The first field of a request with the name is declared with presence, or without. -/
def RequestShape.Has (request : RequestShape) (name : String) (optional : Bool) : Prop :=
  ∃ before found after, request.fields = before ++ found :: after ∧
    (∀ earlier ∈ before, earlier.name ≠ name) ∧ found.name = name ∧ found.optional = optional

def Entity.CreateHas (entity : Entity) (name : String) (optional : Bool) : Prop :=
  ∃ operation, entity.methods.at? .create = some operation ∧ operation.request.Has name optional

def Entity.CreateLacks (entity : Entity) (name : String) : Prop :=
  ∀ operation, entity.methods.at? .create = some operation →
    ∀ field ∈ operation.request.fields, field.name ≠ name

/-- Fields are dealt out in order: points in time to the skipped names, others to be stored. -/
inductive Divides : List Field → List ClassifiedField → List String → Prop
  | nil : Divides [] [] []
  | stored {fields : List Field} {kept : List ClassifiedField} {skipped : List String}
      (classified : ClassifiedField) : classified.field.isTimestamp = false →
        Divides fields kept skipped →
          Divides (classified.field :: fields) (classified :: kept) skipped
  | skipped {fields : List Field} {kept : List ClassifiedField} {skipped : List String}
      (field : Field) : field.isTimestamp = true → Divides fields kept skipped →
        Divides (field :: fields) kept (field.name :: skipped)

structure IsDivided (entity : Entity) (classification : Classification) : Prop where
  /-- Every field is either stored or skipped, in the order of declaration. -/
  divides : Divides entity.fields classification.fields classification.skipped
  required_sublist :
    classification.requiredFields.Sublist (classification.fields.map (·.field.name))
  optional_sublist :
    classification.optionalFields.Sublist (classification.fields.map (·.field.name))
  disjoint : classification.requiredFields.Disjoint classification.optionalFields
  /-- A field is required if it is no enum and the create has it without presence. -/
  mem_required_iff : ∀ classified ∈ classification.fields,
    classified.field.name ∈ classification.requiredFields ↔
      classified.field.isEnum = false ∧ entity.CreateHas classified.field.name false
  /-- A field is optional if the create has it with presence. -/
  mem_optional_iff : ∀ classified ∈ classification.fields,
    classified.field.name ∈ classification.optionalFields ↔
      entity.CreateHas classified.field.name true
  /-- An enum that the create has without presence is always written. -/
  alwaysIncluded_iff : ∀ classified ∈ classification.fields,
    classified.create = .alwaysIncluded ↔
      classified.field.isEnum = true ∧ entity.CreateHas classified.field.name false
  /-- A field that the create does not have is left out. -/
  excluded_iff : ∀ classified ∈ classification.fields,
    classified.create = .excluded ↔ entity.CreateLacks classified.field.name
  /-- There is nothing else that can become of a field. -/
  mem_or : ∀ classified ∈ classification.fields,
    classified.field.name ∈ classification.requiredFields ∨
      classified.field.name ∈ classification.optionalFields ∨
        classified.create = .alwaysIncluded ∨ classified.create = .excluded
  /-- Without a create, nothing is required and nothing is optional. -/
  eq_nil_of_no_create : entity.methods.at? .create = none →
    classification.requiredFields = [] ∧ classification.optionalFields = []

section Requests

variable {entity : Entity} {name : String} {optional : Bool}

theorem has_iff {request : RequestShape} :
    request.Has name optional ↔
      ∃ found, request.field? name = some found ∧ found.optional = optional := by
  have hfound (found : Field) : request.field? name = some found ↔
      found.name = name ∧ ∃ before after, request.fields = before ++ found :: after ∧
        ∀ earlier ∈ before, earlier.name ≠ name := by
    simp [RequestShape.field?, List.find?_eq_some_iff_append]
  simp only [hfound]
  constructor
  · rintro ⟨before, found, after, hsplit, hearlier, hname, hoptional⟩
    exact ⟨found, ⟨hname, before, after, hsplit, hearlier⟩, hoptional⟩
  · rintro ⟨found, ⟨hname, before, after, hsplit, hearlier⟩, hoptional⟩
    exact ⟨before, found, after, hsplit, hearlier, hname, hoptional⟩

theorem createHas_iff :
    entity.CreateHas name optional ↔
      ∃ found, entity.requestField? .create name = some found ∧ found.optional = optional := by
  unfold Entity.CreateHas Entity.requestField? Entity.request?
  cases entity.methods.at? .create with
  | none => simp
  | some operation => simp [has_iff]

theorem createLacks_iff :
    entity.CreateLacks name ↔ entity.requestField? .create name = none := by
  unfold Entity.CreateLacks Entity.requestField? Entity.request?
  cases entity.methods.at? .create with
  | none => simp
  | some operation => simp [RequestShape.field?]

theorem requestField?_eq_none (h : entity.methods.at? .create = none) :
    entity.requestField? .create name = none := by
  rw [Entity.requestField?, Entity.request?, h]
  rfl

end Requests

section States

variable {field : Field} {inRequest : Option Field}

theorem createState_eq_required_iff :
    createState field inRequest = .required ↔
      field.isEnum = false ∧ ∃ found, inRequest = some found ∧ found.optional = false := by
  cases inRequest with
  | none => simp [createState]
  | some found => cases hoptional : found.optional <;> simp [createState, hoptional]

theorem createState_eq_optional_iff :
    createState field inRequest = .optional ↔
      ∃ found, inRequest = some found ∧ found.optional = true := by
  cases inRequest with
  | none => simp [createState]
  | some found =>
    cases hoptional : found.optional <;> cases henum : field.isEnum <;>
      simp [createState, hoptional, henum]

theorem createState_eq_alwaysIncluded_iff :
    createState field inRequest = .alwaysIncluded ↔
      field.isEnum = true ∧ ∃ found, inRequest = some found ∧ found.optional = false := by
  cases inRequest with
  | none => simp [createState]
  | some found => cases hoptional : found.optional <;> simp [createState, hoptional]

theorem createState_eq_excluded_iff :
    createState field inRequest = .excluded ↔ inRequest = none := by
  cases inRequest with
  | none => simp [createState]
  | some found =>
    cases hoptional : found.optional <;> cases henum : field.isEnum <;>
      simp [createState, hoptional, henum]

variable {entity : Entity} {classified : ClassifiedField}

theorem create_eq (h : classified ∈ entity.classify.fields) : classified.create =
    createState classified.field (entity.requestField? .create classified.field.name) := by
  obtain ⟨field, -, rfl⟩ := List.mem_map.mp h
  rfl

end States

section Names

variable {classification : Classification} {classified : ClassifiedField}

/-- The list of a state has the names of the fields in the state, if names are distinct. -/
theorem mem_namesIn_iff (hnodup : (classification.fields.map (·.field.name)).Nodup)
    (h : classified ∈ classification.fields) (state : FieldState) :
    classified.field.name ∈ classification.namesIn state ↔ classified.create = state := by
  constructor
  · intro hname
    obtain ⟨other, hother, hsame⟩ := List.mem_map.mp hname
    obtain ⟨hmem, hstate⟩ := List.mem_filter.mp hother
    obtain rfl := List.inj_on_of_nodup_map hnodup hmem h hsame
    exact of_decide_eq_true hstate
  · intro hstate
    exact List.mem_map_of_mem (List.mem_filter.mpr ⟨h, decide_eq_true hstate⟩)

theorem namesIn_sublist (classification : Classification) (state : FieldState) :
    (classification.namesIn state).Sublist (classification.fields.map (·.field.name)) :=
  List.filter_sublist.map _

/-- No field is in the lists of two states. -/
theorem disjoint_namesIn (hnodup : (classification.fields.map (·.field.name)).Nodup)
    {state other : FieldState} (hne : state ≠ other) :
    (classification.namesIn state).Disjoint (classification.namesIn other) := by
  intro name hstate hother
  obtain ⟨classified, hclassified, rfl⟩ := List.mem_map.mp hstate
  have hmem : classified ∈ classification.fields := List.mem_of_mem_filter hclassified
  rw [mem_namesIn_iff hnodup hmem] at hstate hother
  exact hne (hstate.symm.trans hother)

theorem namesIn_eq_nil {state : FieldState}
    (h : ∀ classified ∈ classification.fields, classified.create ≠ state) :
    classification.namesIn state = [] := by
  rw [Classification.namesIn, List.map_eq_nil_iff, List.filter_eq_nil_iff]
  intro classified hmem
  simpa using h classified hmem

end Names

section Classify

variable (entity : Entity)

theorem divides_filter (fields : List Field) :
    Divides fields ((fields.filter (!·.isTimestamp)).map entity.classifyField)
      ((fields.filter (·.isTimestamp)).map (·.name)) := by
  induction fields with
  | nil => exact .nil
  | cons field fields ih =>
    cases htimestamp : field.isTimestamp with
    | true =>
      rw [List.filter_cons_of_neg (by simp [htimestamp]), List.filter_cons_of_pos htimestamp]
      exact .skipped field htimestamp ih
    | false =>
      rw [List.filter_cons_of_pos (by simp [htimestamp]),
        List.filter_cons_of_neg (by simp [htimestamp])]
      exact .stored (entity.classifyField field) htimestamp ih

/-- The stored fields keep their order. -/
theorem Divides.sublist {fields : List Field} {kept : List ClassifiedField}
    {skipped : List String} (h : Divides fields kept skipped) :
    (kept.map (·.field)).Sublist fields := by
  induction h with
  | nil => exact .slnil
  | stored classified _ _ ih => exact ih.cons_cons classified.field
  | skipped field _ _ ih => exact ih.cons field

theorem nodup_names_classify (hnodup : (entity.fields.map (·.name)).Nodup) :
    (entity.classify.fields.map (·.field.name)).Nodup := by
  have hsublist := ((divides_filter entity entity.fields).sublist).map (·.name)
  rw [List.map_map] at hsublist
  exact hnodup.sublist hsublist

variable {entity}

/-- The list of a state has the names of the fields that a create puts into the state. -/
theorem mem_namesIn_classify_iff (hnodup : (entity.fields.map (·.name)).Nodup)
    {classified : ClassifiedField} (h : classified ∈ entity.classify.fields) (state : FieldState) :
    classified.field.name ∈ entity.classify.namesIn state ↔
      createState classified.field (entity.requestField? .create classified.field.name) =
        state := by
  rw [mem_namesIn_iff (nodup_names_classify entity hnodup) h, create_eq h]

/--
A classification divides the fields of an entity in their order into stored and skipped ones. The
stored ones that a create must have and those that it may have are listed by their names, apart from
each other and in the same order; what is in neither list is an enum that is always written, or is
missing in the create.
-/
theorem classify_isDivided (hnodup : (entity.fields.map (·.name)).Nodup) :
    IsDivided entity entity.classify where
  divides := divides_filter entity entity.fields
  required_sublist := namesIn_sublist _ _
  optional_sublist := namesIn_sublist _ _
  disjoint := disjoint_namesIn (nodup_names_classify entity hnodup) (by decide)
  mem_required_iff classified h := by
    rw [Classification.requiredFields, mem_namesIn_classify_iff hnodup h,
      createState_eq_required_iff, createHas_iff]
  mem_optional_iff classified h := by
    rw [Classification.optionalFields, mem_namesIn_classify_iff hnodup h,
      createState_eq_optional_iff, createHas_iff]
  alwaysIncluded_iff classified h := by
    rw [create_eq h, createState_eq_alwaysIncluded_iff, createHas_iff]
  excluded_iff classified h := by
    rw [create_eq h, createState_eq_excluded_iff, createLacks_iff]
  mem_or classified h := by
    rw [Classification.requiredFields, Classification.optionalFields,
      mem_namesIn_classify_iff hnodup h, mem_namesIn_classify_iff hnodup h, ← create_eq h]
    cases classified.create <;> simp
  eq_nil_of_no_create h := by
    have hexcluded (classified : ClassifiedField) (hmem : classified ∈ entity.classify.fields) :
        classified.create = .excluded := by
      rw [create_eq hmem, requestField?_eq_none h, createState]
    exact ⟨namesIn_eq_nil fun classified hmem ↦ by simp [hexcluded classified hmem],
      namesIn_eq_nil fun classified hmem ↦ by simp [hexcluded classified hmem]⟩

end Classify

/-- Members, who can be created with a name, a status and maybe an address. -/
def member : Entity where
  name := "Member"
  package := "club"
  table := "Member"
  fields :=
    [⟨"name", "name", .scalar .string, false⟩, ⟨"joined", "joined", .timestamp, true⟩,
      ⟨"email", "email", .scalar .string, true⟩, ⟨"status", "status", .enum ".club.Status", false⟩,
      ⟨"notes", "notes", .scalar .string, false⟩]
  audit := {}
  methods :=
    { create := some
        { method :=
            { name := "CreateMember"
              kind := some .create
              input := ⟨".club.CreateMemberRequest", "club", "CreateMemberRequest"⟩
              output := ⟨".club.Member", "club", "Member"⟩
              clientStreaming := false
              serverStreaming := false }
          request :=
            { fields :=
                [⟨"status", "status", .enum ".club.Status", false⟩,
                  ⟨"email", "email", .scalar .string, true⟩,
                  ⟨"name", "name", .scalar .string, false⟩] }
          response := {} } }
  enums := [(".club.Status", ⟨".club.Status", "Status", [⟨"STATUS_ACTIVE", 0, "active"⟩]⟩)]

/-- Each member has one required and one optional field, which the request has turned round. -/
theorem member_isDivided :
    IsDivided member member.classify ∧ member.classify.skipped = ["joined"] ∧
      member.classify.requiredFields = ["name"] ∧ member.classify.optionalFields = ["email"] ∧
      member.CreateLacks "notes" :=
  ⟨classify_isDivided (by decide +kernel), by decide +kernel, by decide +kernel, by decide +kernel,
    createLacks_iff.mpr (by decide +kernel)⟩

end ProtoCrud.Schema
