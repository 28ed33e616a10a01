import Mathlib.Data.List.Induction
import Mathlib.Data.List.Nodup
import ProtoCrud.Handler.Serving
import ProtoCrud.Proofs.Schema.MessageShape

/-!
# Response fields as they are declared

What an operation fills in on its response is chosen by the shape of the response, which no longer
has the fields themselves. Each part of the shape goes back to the declaration: the field that
carries entities is the first one that can, a count has its type from a field of its name, and there
are other fields if one of the message is none of these.
-/

namespace ProtoCrud.Handler

open Code (fieldIdentifier)
open Schema

/-- The counts, in the order in which a list sets them. -/
def Counter.all : List Counter :=
  [.total, .page, .pageSize]

def countType? (shape : ResponseShape) : Counter → Option ScalarType
  | .total => shape.total
  | .page => shape.page
  | .pageSize => shape.pageSize

def withCount (shape : ResponseShape) (type : ScalarType) : Counter → ResponseShape
  | .total => { shape with total := some type }
  | .page => { shape with page := some type }
  | .pageSize => { shape with pageSize := some type }

@[simp] theorem success_withCount (shape : ResponseShape) (type : ScalarType) (counter : Counter) :
    (withCount shape type counter).success = shape.success := by
  cases counter <;> rfl

@[simp] theorem hasOther_withCount (shape : ResponseShape) (type : ScalarType)
    (counter : Counter) : (withCount shape type counter).hasOther = shape.hasOther := by
  cases counter <;> rfl

theorem countType?_withCount (shape : ResponseShape) (type : ScalarType)
    (counter other : Counter) :
    countType? (withCount shape type counter) other =
      if other = counter then some type else countType? shape other := by
  cases counter <;> cases other <;> rfl

@[simp] theorem countType?_entityField (shape : ResponseShape) (name : Option String)
    (counter : Counter) :
    countType? { shape with entityField := name } counter = countType? shape counter := by
  cases counter <;> rfl

@[simp] theorem countType?_success (shape : ResponseShape) (success : Bool) (counter : Counter) :
    countType? { shape with success } counter = countType? shape counter := by
  cases counter <;> rfl

@[simp] theorem countType?_hasOther (shape : ResponseShape) (hasOther : Bool)
    (counter : Counter) :
    countType? { shape with hasOther } counter = countType? shape counter := by
  cases counter <;> rfl

def Counter.isHeldBy (counter : Counter) (field : Descriptor.Field) : Bool :=
  field.name = counter.name && (integerType? field).isSome

def reportsSuccess (field : Descriptor.Field) : Bool :=
  field.name = "success" && field.type = .bool && isSingular field

theorem Counter.name_injective {counter other : Counter} (h : counter.name = other.name) :
    counter = other := by
  cases counter <;> cases other <;> first | rfl | exact absurd h (by decide)

theorem Counter.isHeldBy_iff {counter : Counter} {field : Descriptor.Field} :
    counter.isHeldBy field = true ↔
      field.name = counter.name ∧ ∃ type, integerType? field = some type := by
  simp [isHeldBy, Option.isSome_iff_exists]

theorem reportsSuccess_iff {field : Descriptor.Field} :
    reportsSuccess field = true ↔
      field.name = "success" ∧ field.type = .bool ∧ field.label ≠ .repeated := by
  simp [reportsSuccess, isSingular_iff, and_assoc]

theorem integerType?_eq_some_iff {field : Descriptor.Field} {type : ScalarType} :
    integerType? field = some type ↔
      field.label ≠ .repeated ∧ field.optional = false ∧
        scalarType? field.type = some type ∧ type.isInteger = true := by
  rw [integerType?, ← isSingular_iff]
  cases isSingular field <;> cases field.optional <;> simp [Option.filter_eq_some_iff]

section Roles

variable {kind : MethodKind} {entityName : String} {field : Descriptor.Field}

/-- A field that carries entities is neither a count nor a report. -/
theorem roles_of_carriesEntity (h : carriesEntity kind entityName field = true) :
    reportsSuccess field = false ∧ ∀ counter : Counter, counter.isHeldBy field = false := by
  obtain ⟨htype, -, -⟩ := carriesEntity_iff.mp h
  refine ⟨by simp [reportsSuccess, htype], fun counter ↦ ?_⟩
  simp [Counter.isHeldBy, integerType?, htype, scalarType?]

theorem reportsSuccess_of_isHeldBy {counter : Counter} (h : counter.isHeldBy field = true) :
    reportsSuccess field = false := by
  refine Bool.eq_false_iff.mpr fun hreports ↦ ?_
  have hname := (Counter.isHeldBy_iff.mp h).1.symm.trans (reportsSuccess_iff.mp hreports).1
  cases counter <;> exact absurd hname (by decide)

inductive Adds (kind : MethodKind) (entityName : String) (shape : ResponseShape)
    (field : Descriptor.Field) : ResponseShape → Prop
  /-- It is the first field that carries entities. -/
  | carrier (hcarries : carriesEntity kind entityName field = true)
      (hnone : shape.entityField = none) :
      Adds kind entityName shape field { shape with entityField := some field.name }
  /-- It holds a count. -/
  | count {counter : Counter} {type : ScalarType} (hheld : counter.isHeldBy field = true)
      (htype : integerType? field = some type) :
      Adds kind entityName shape field (withCount shape type counter)
  /-- It reports success. -/
  | report (hreports : reportsSuccess field = true) :
      Adds kind entityName shape field { shape with success := true }
  /-- It is none of these. -/
  | other (hnot : ¬(carriesEntity kind entityName field = true ∧ shape.entityField = none))
      (hheld : ∀ counter : Counter, counter.isHeldBy field = false)
      (hreports : reportsSuccess field = false) :
      Adds kind entityName shape field { shape with hasOther := true }

theorem adds_add (kind : MethodKind) (entityName : String) (shape : ResponseShape)
    (field : Descriptor.Field) :
    Adds kind entityName shape field (shape.add kind entityName field) := by
  unfold ResponseShape.add
  split
  · next hcarries => exact .carrier hcarries.1 hcarries.2
  next hnot =>
  split
  · next type hname htype =>
    have hheld : Counter.total.isHeldBy field = true :=
      Counter.isHeldBy_iff.mpr ⟨hname, type, htype⟩
    exact .count hheld htype
  · next type hname htype =>
    have hheld : Counter.page.isHeldBy field = true :=
      Counter.isHeldBy_iff.mpr ⟨hname, type, htype⟩
    exact .count hheld htype
  · next type hname htype =>
    have hheld : Counter.pageSize.isHeldBy field = true :=
      Counter.isHeldBy_iff.mpr ⟨hname, type, htype⟩
    exact .count hheld htype
  · next htotal hpage hsize =>
    have hheld (counter : Counter) : counter.isHeldBy field = false := by
      refine Bool.eq_false_iff.mpr fun hheld ↦ ?_
      obtain ⟨hname, type, htype⟩ := Counter.isHeldBy_iff.mp hheld
      cases counter with
      | total => exact htotal type hname htype
      | page => exact hpage type hname htype
      | pageSize => exact hsize type hname htype
    split
    · next hreports =>
      rw [isSingular_iff] at hreports
      exact .report (reportsSuccess_iff.mpr hreports)
    · next hreports =>
      rw [isSingular_iff, ← reportsSuccess_iff, Bool.not_eq_true] at hreports
      exact .other hnot hheld hreports

theorem success_add (shape : ResponseShape) (field : Descriptor.Field) :
    (shape.add kind entityName field).success = (shape.success || reportsSuccess field) := by
  have hadds := adds_add kind entityName shape field
  generalize shape.add kind entityName field = next at hadds ⊢
  cases hadds with
  | carrier hcarries hnone => rw [(roles_of_carriesEntity hcarries).1, Bool.or_false]
  | count hheld htype =>
    rw [reportsSuccess_of_isHeldBy hheld, Bool.or_false, success_withCount]
  | report hreports => rw [hreports, Bool.or_true]
  | other hnot hheld hreports => rw [hreports, Bool.or_false]

theorem countType?_add (shape : ResponseShape) (field : Descriptor.Field) (counter : Counter) :
    countType? (shape.add kind entityName field) counter =
      if counter.isHeldBy field then integerType? field else countType? shape counter := by
  have hadds := adds_add kind entityName shape field
  generalize shape.add kind entityName field = next at hadds ⊢
  cases hadds with
  | carrier hcarries hnone => simp [(roles_of_carriesEntity hcarries).2 counter]
  | @count other type hheld htype =>
    rw [countType?_withCount, htype]
    refine if_congr ⟨fun heq ↦ heq ▸ hheld, fun hcounter ↦ ?_⟩ rfl rfl
    exact Counter.name_injective ((Counter.isHeldBy_iff.mp hcounter).1.symm.trans
      (Counter.isHeldBy_iff.mp hheld).1)
  | report hreports =>
    have hfree : counter.isHeldBy field = false := Bool.eq_false_iff.mpr fun hcounter ↦ by
      cases hreports.symm.trans (reportsSuccess_of_isHeldBy hcounter)
    simp [hfree]
  | other hnot hheld hreports => simp [hheld counter]

end Roles

section Fields

variable {kind : MethodKind} {entityName : String} {fields : List Descriptor.Field}

/-- A response reports success if one of its fields does. -/
theorem success_foldl_add :
    (fields.foldl (ResponseShape.add kind entityName) {}).success =
      fields.any reportsSuccess := by
  induction fields using List.reverseRecOn with
  | nil => rfl
  | append_singleton before field ih =>
    rw [List.foldl_concat, success_add, ih, List.any_append, List.any_cons, List.any_nil,
      Bool.or_false]

/-- A response has the type of a count from the last field that holds it. -/
theorem countType?_foldl_add (counter : Counter) :
    countType? (fields.foldl (ResponseShape.add kind entityName) {}) counter =
      (fields.reverse.find? counter.isHeldBy).bind integerType? := by
  induction fields using List.reverseRecOn with
  | nil => cases counter <;> rfl
  | append_singleton before field ih =>
    rw [List.foldl_concat, countType?_add, ih, List.reverse_concat, List.find?_cons]
    cases counter.isHeldBy field <;> rfl

end Fields

theorem counterInits_eq (shape : ResponseShape) :
    counterInits shape = Counter.all.filterMap fun counter ↦
      (countType? shape counter).map fun type ↦ ⟨counter.name, .count counter type⟩ := by
  rcases shape with ⟨_, total, page, size, _, _⟩
  cases total <;> cases page <;> cases size <;> rfl

/--
What a literal names: the carrier of the record, the report of a delete, or the carrier of a page
with its counts.
-/
theorem response_eq_literal {kind : MethodKind} {shape : ResponseShape} {outputName : String}
    {inits : List ResponseInit} {hasRest : Bool}
    (h : response kind shape outputName = .literal inits hasRest) :
    hasRest = needsDefault kind shape ∧
      ((mayReturnEntity kind = true ∧ ∃ field, shape.entityField = some field ∧
          inits = [⟨fieldIdentifier field, .record⟩]) ∨
        (kind = .delete ∧ outputName ≠ emptyName ∧ shape.success = true ∧
          inits = [⟨"success", .success⟩]) ∨
        kind = .list ∧ inits =
          (shape.entityField.map fun field ↦
            (⟨fieldIdentifier field, .items⟩ : ResponseInit)).toList ++ counterInits shape) := by
  have hrecord (hmay : mayReturnEntity kind = true) : hasRest = needsDefault kind shape ∧
      ∃ field, shape.entityField = some field ∧ inits = [⟨fieldIdentifier field, .record⟩] := by
    cases hfield : shape.entityField with
    | none =>
      have hresponse : response kind shape outputName = .record := by
        cases kind with
        | create | get | update => simp only [response, hfield]
        | delete | list => cases hmay
      cases hresponse.symm.trans h
    | some field =>
      have hresponse : response kind shape outputName =
          .literal [⟨fieldIdentifier field, .record⟩] (needsDefault kind shape) := by
        cases kind with
        | create | get | update => simp only [response, hfield]
        | delete | list => cases hmay
      obtain ⟨rfl, rfl⟩ := Response.literal.inj (hresponse.symm.trans h)
      exact ⟨rfl, field, rfl, rfl⟩
  cases kind with
  | create => exact (hrecord rfl).imp_right fun hfield ↦ .inl ⟨rfl, hfield⟩
  | get => exact (hrecord rfl).imp_right fun hfield ↦ .inl ⟨rfl, hfield⟩
  | update => exact (hrecord rfl).imp_right fun hfield ↦ .inl ⟨rfl, hfield⟩
  | delete =>
    unfold response at h
    dsimp only at h
    split at h
    · cases h
    · next hname =>
      split at h
      · next hsuccess =>
        obtain ⟨rfl, rfl⟩ := Response.literal.inj h
        exact ⟨rfl, .inr (.inl ⟨rfl, hname, hsuccess, rfl⟩)⟩
      · cases h
  | list =>
    obtain ⟨rfl, rfl⟩ := Response.literal.inj h
    exact ⟨rfl, .inr (.inr ⟨rfl, rfl⟩)⟩

end ProtoCrud.Handler
