import ProtoCrud.Proofs.Handler.RequestFields
import ProtoCrud.Proofs.Handler.ResponseFields

/-!
# Fields that are taken for plain values

The bodies of operations read the id of a request and an author without presence as values that are
there, and they set counts and the report of success as such. All these fields are single ones of
the right type. That they are declared without presence is checked for authors and counts only, and
that they are members of no choice is not checked at all.
-/

namespace ProtoCrud.Handler

open Descriptor (File)
open Schema

/-- A field that a body takes for a plain value. -/
inductive PlainUse where
  /-- The id of a request. -/
  | id
  /-- The author that a request names. -/
  | author
  /-- The report of success. -/
  | success
  /-- A count, kept in an integer type. -/
  | count (counter : Counter) (type : ScalarType)
  deriving DecidableEq

namespace PlainUse

def name? (kind : MethodKind) : PlainUse → Option String
  | id => some idColumn
  | author => authorColumn? kind
  | success => some "success"
  | count counter _ => some counter.name

/-- Whether a declaration is one of the type that the body takes. -/
def HasType (field : Descriptor.Field) : PlainUse → Prop
  | id => field.type = .string
  | author => field.type = .string
  | success => field.type = .bool
  | count _ type => scalarType? field.type = some type

def checksPresence : PlainUse → Bool
  | id => false
  | author => true
  | success => false
  | count _ _ => true

/-- What a field has been checked for before a body takes it for a plain value. -/
structure IsChecked (use : PlainUse) (kind : MethodKind) (field : Descriptor.Field) : Prop where
  named : use.name? kind = some field.name
  typed : use.HasType field
  singular : field.label ≠ .repeated
  notOptional : use.checksPresence = true → field.optional = false

structure IsPlain (use : PlainUse) (kind : MethodKind) (field : Descriptor.Field) : Prop where
  named : use.name? kind = some field.name
  typed : use.HasType field
  singular : field.label ≠ .repeated
  notOptional : field.optional = false
  notInOneof : field.inOneof = false

/-- The declared fields of the message that the body takes the value from or puts it into. -/
def fields (files : List File) (method : Method) (use : PlainUse) : List Descriptor.Field :=
  let fullName := match use with
    | id | author => method.input.fullName
    | success | count _ _ => method.output.fullName
  (((TypeIndex.ofFiles files).message? fullName).getD emptyMessage).fields

def ofValue? : ResponseValue → Option PlainUse
  | .success => some success
  | .count counter type => some (count counter type)
  | .record => none
  | .items => none

end PlainUse

def Response.inits : Response → List ResponseInit
  | .literal inits _ => inits
  | _ => []

def plainUses (kind : MethodKind) (operation : CrudMethod) : List PlainUse :=
  (if needsId kind then [.id] else []) ++
    (if operation.request.author = some false then [.author] else []) ++
    (response kind operation.response operation.method.output.fullName).inits.filterMap
      fun init ↦ PlainUse.ofValue? init.value

section Requests

variable {kind : MethodKind} {descriptors : List Descriptor.Field}

theorem author_add (shape : RequestShape) (descriptor : Descriptor.Field) :
    (shape.add kind descriptor).author =
      if authorColumn? kind = some descriptor.name ∧ descriptor.type = .string ∧
          isSingular descriptor = true
      then some descriptor.optional else shape.author := by
  unfold RequestShape.add
  dsimp only
  split
  · next hid =>
    have hnone : authorColumn? kind ≠ some descriptor.name := by
      rw [hid]
      cases kind <;> decide
    rw [if_neg fun h ↦ hnone h.1]
  · simp only [Bool.and_eq_true, decide_eq_true_eq]
    split
    · rfl
    split
    · rfl
    split
    · rfl
    · split <;> rfl

/-- An author was read off a field of its name. -/
theorem exists_author {optional : Bool}
    (h : (descriptors.foldl (RequestShape.add kind) {}).author = some optional) :
    ∃ descriptor ∈ descriptors, authorColumn? kind = some descriptor.name ∧
      descriptor.type = .string ∧ descriptor.label ≠ .repeated ∧
      descriptor.optional = optional := by
  induction descriptors using List.reverseRecOn with
  | nil => cases h
  | append_singleton before descriptor ih =>
    rw [List.foldl_concat, author_add] at h
    split at h
    · next hread =>
      exact ⟨descriptor, List.mem_concat_self, hread.1, hread.2.1,
        isSingular_iff.mp hread.2.2, Option.some.inj h⟩
    · obtain ⟨found, hfound, hread⟩ := ih h
      exact ⟨found, List.mem_append_left _ hfound, hread⟩

end Requests

section Responses

variable {kind : MethodKind} {entityName : String} {descriptors : List Descriptor.Field}

theorem exists_success
    (h : (descriptors.foldl (ResponseShape.add kind entityName) {}).success = true) :
    ∃ field ∈ descriptors, PlainUse.success.IsChecked kind field := by
  rw [success_foldl_add, List.any_eq_true] at h
  obtain ⟨field, hfield, hreports⟩ := h
  obtain ⟨hname, htype, hsingular⟩ := reportsSuccess_iff.mp hreports
  exact ⟨field, hfield, congrArg some hname.symm, htype, hsingular, nofun⟩

theorem exists_count {counter : Counter} {type : ScalarType}
    (h : countType? (descriptors.foldl (ResponseShape.add kind entityName) {}) counter =
      some type) :
    ∃ field ∈ descriptors, (PlainUse.count counter type).IsChecked kind field := by
  rw [countType?_foldl_add, Option.bind_eq_some_iff] at h
  obtain ⟨field, hfield, htype⟩ := h
  have hname := (Counter.isHeldBy_iff.mp (List.find?_some hfield)).1
  obtain ⟨hsingular, hoptional, hscalar, -⟩ := integerType?_eq_some_iff.mp htype
  exact ⟨field, List.mem_reverse.mp (List.mem_of_find?_eq_some hfield), congrArg some hname.symm,
    hscalar, hsingular, fun _ ↦ hoptional⟩

end Responses

/-- The values among those that a response names that are plain ones. -/
theorem ofValue?_eq_some {kind : MethodKind} {shape : ResponseShape} {outputName : String}
    {init : ResponseInit} (h : init ∈ (response kind shape outputName).inits) {use : PlainUse}
    (huse : PlainUse.ofValue? init.value = some use) :
    use = .success ∧ shape.success = true ∨
      ∃ counter type, use = .count counter type ∧ countType? shape counter = some type := by
  cases hresponse : response kind shape outputName with
  | literal inits hasRest =>
    rw [hresponse] at h
    change init ∈ inits at h
    rcases (response_eq_literal hresponse).2 with ⟨-, field, -, rfl⟩ | ⟨-, -, hsuccess, rfl⟩ |
      ⟨-, rfl⟩
    · rw [List.mem_singleton.mp h] at huse
      cases huse
    · rw [List.mem_singleton.mp h] at huse
      exact .inl ⟨(Option.some.inj huse).symm, hsuccess⟩
    · rcases List.mem_append.mp h with h | h
      · obtain ⟨field, -, rfl⟩ := Option.map_eq_some_iff.mp (Option.mem_toList.mp h)
        cases huse
      · rw [counterInits_eq, List.mem_filterMap] at h
        obtain ⟨counter, -, hcounter⟩ := h
        obtain ⟨type, htype, rfl⟩ := Option.map_eq_some_iff.mp hcounter
        exact .inr ⟨counter, type, (Option.some.inj huse).symm, htype⟩
  | record =>
    rw [hresponse] at h
    cases h
  | nothing =>
    rw [hresponse] at h
    cases h
  | default =>
    rw [hresponse] at h
    cases h

theorem mem_plainUses_cases {kind : MethodKind} {operation : CrudMethod} {use : PlainUse}
    (h : use ∈ plainUses kind operation) :
    use = .id ∧ needsId kind = true ∨
      use = .author ∧ operation.request.author = some false ∨
      use = .success ∧ operation.response.success = true ∨
      ∃ counter type, use = .count counter type ∧
        countType? operation.response counter = some type := by
  rw [plainUses, List.mem_append, List.mem_append, List.mem_filterMap] at h
  rcases h with (h | h) | ⟨init, hinit, huse⟩
  · split at h
    · next hneeds => exact .inl ⟨List.mem_singleton.mp h, hneeds⟩
    · cases h
  · split at h
    · next hauthor => exact .inr (.inl ⟨List.mem_singleton.mp h, hauthor⟩)
    · cases h
  · exact .inr (.inr (ofValue?_eq_some hinit huse))

section Operations

variable {files : List File} {requested : List String} {schema : Resolution} {entity : Entity}
  {kind : MethodKind} {operation : CrudMethod}

/-- A field that a body takes for a plain value is declared, and has been checked. -/
theorem exists_isChecked (h : resolve files requested = .ok schema)
    (hentity : entity ∈ schema.entities) (hoperation : entity.methods.at? kind = some operation)
    {use : PlainUse} (huse : use ∈ plainUses kind operation) :
    ∃ field ∈ use.fields files operation.method, use.IsChecked kind field := by
  obtain ⟨input, output, hinput, houtput, hrequest, hresponse⟩ :=
    exists_messages h hentity hoperation
  obtain ⟨hread, hid, -⟩ := requestShape_eq_ok hrequest
  have hanswer : ((TypeIndex.ofFiles files).message? operation.method.output.fullName).getD
      emptyMessage = output := by
    rcases houtput with houtput | ⟨hnone, -, rfl⟩
    · rw [houtput, Option.getD_some]
    · rw [hnone, Option.getD_none]
  rcases mem_plainUses_cases huse with ⟨rfl, hneeds⟩ | ⟨rfl, hauthor⟩ | ⟨rfl, hsuccess⟩ |
    ⟨counter, type, rfl, htype⟩
  · obtain ⟨field, hfield, hname, hstring, hsingular⟩ := exists_id_of_hasId rfl (hread ▸ hid hneeds)
    refine ⟨field, ?_, congrArg some hname.symm, hstring, hsingular, nofun⟩
    rwa [PlainUse.fields, hinput]
  · rw [hread] at hauthor
    obtain ⟨field, hfield, hname, hstring, hsingular, hoptional⟩ := exists_author hauthor
    refine ⟨field, ?_, hname, hstring, hsingular, fun _ ↦ hoptional⟩
    rwa [PlainUse.fields, hinput]
  · rcases responseShape_cases hresponse with ⟨-, -, hempty⟩ | ⟨hfilled, -⟩
    · rw [hempty] at hsuccess
      cases hsuccess
    · rw [hfilled, ← hanswer] at hsuccess
      exact exists_success hsuccess
  · rcases responseShape_cases hresponse with ⟨-, -, hempty⟩ | ⟨hfilled, -⟩
    · rw [hempty] at htype
      cases counter <;> cases htype
    · rw [hfilled, ← hanswer] at htype
      exact exists_count htype

theorem PlainUse.IsChecked.isPlain_iff {use : PlainUse} {field : Descriptor.Field}
    (h : use.IsChecked kind field) :
    use.IsPlain kind field ↔
      field.inOneof = false ∧ (use.checksPresence = false → field.optional = false) := by
  constructor
  · exact fun hplain ↦ ⟨hplain.notInOneof, fun _ ↦ hplain.notOptional⟩
  · rintro ⟨houtside, hoptional⟩
    refine ⟨h.named, h.typed, h.singular, ?_, houtside⟩
    cases hchecks : use.checksPresence with
    | true => exact h.notOptional hchecks
    | false => exact hoptional hchecks

/--
What a body of a resolved entity takes for a plain value is declared as a single field of the right
type, the only one of its name if no two fields have one name. Authors and counts are declared
without presence as well. The field is the plain value that it is taken for just if it is a member
of no choice and, where that has not been checked, has no presence.
-/
theorem exists_isPlain_iff (h : resolve files requested = .ok schema)
    (hentity : entity ∈ schema.entities) (hoperation : entity.methods.at? kind = some operation)
    {use : PlainUse} (huse : use ∈ plainUses kind operation) :
    ∃ field ∈ use.fields files operation.method, use.IsChecked kind field ∧
      (use.IsPlain kind field ↔
        field.inOneof = false ∧ (use.checksPresence = false → field.optional = false)) ∧
      (((use.fields files operation.method).map (·.name)).Nodup →
        ∀ other ∈ use.fields files operation.method, use.name? kind = some other.name →
          other = field) := by
  obtain ⟨field, hfield, hchecked⟩ := exists_isChecked h hentity hoperation huse
  refine ⟨field, hfield, hchecked, hchecked.isPlain_iff, fun hnodup other hother hname ↦ ?_⟩
  exact List.inj_on_of_nodup_map hnodup hother hfield
    (Option.some.inj (hname.symm.trans hchecked.named))

end Operations

/--
A file whose only method removes a row, with the declarations of the id in its request and of the
report in its response.
-/
def removalFile (id report : Descriptor.Field) : File where
  name := "gadgets.proto"
  package := "shop"
  messages :=
    [.mk "Gadget" [plainField "id" .string ""] [] [],
      .mk "DeleteGadgetRequest" [id] [] [],
      .mk "DeleteGadgetResponse" [report] [] []]
  enums := []
  services :=
    [⟨"Gadgets",
      [⟨"DeleteGadget", ".shop.DeleteGadgetRequest", ".shop.DeleteGadgetResponse", false,
        false⟩]⟩]

/-- What the body of a removal takes for plain values, with what its message declares. -/
def removalUses (file : File) (entity : Entity) :
    Option (List (PlainUse × List Descriptor.Field)) :=
  (entity.methods.at? .delete).map fun operation ↦
    (plainUses .delete operation).map fun use ↦ (use, use.fields [file] operation.method)

theorem exists_removal (id report : Descriptor.Field)
    (uses : List (PlainUse × List Descriptor.Field))
    (h : (resolve [removalFile id report] ["gadgets.proto"]).toOption.map
      (fun schema ↦ schema.entities.map (removalUses (removalFile id report))) =
        some [some uses]) :
    ∃ schema entity operation, resolve [removalFile id report] ["gadgets.proto"] = .ok schema ∧
      entity ∈ schema.entities ∧ entity.methods.at? .delete = some operation ∧
      (plainUses .delete operation).map
        (fun use ↦ (use, use.fields [removalFile id report] operation.method)) = uses := by
  obtain ⟨schema, entity, hschema, hentity, huses⟩ := exists_entity h
  obtain ⟨operation, hoperation, huses⟩ := Option.map_eq_some_iff.mp huses
  exact ⟨schema, entity, operation, hschema, hentity ▸ List.mem_cons_self, hoperation, huses⟩

def plainRemovalFile : File :=
  removalFile (plainField "id" .string "") (plainField "success" .bool "")

/-- The id and the report are the plain values that they are taken for. -/
theorem isPlain_plainRemoval :
    ∃ schema entity operation, resolve [plainRemovalFile] ["gadgets.proto"] = .ok schema ∧
      entity ∈ schema.entities ∧ entity.methods.at? .delete = some operation ∧
      plainUses .delete operation = [.id, .success] ∧
      ∀ use ∈ plainUses .delete operation,
        ∃ field ∈ use.fields [plainRemovalFile] operation.method, use.IsPlain .delete field := by
  obtain ⟨schema, entity, operation, hschema, hentity, hoperation, huses⟩ :=
    exists_removal (plainField "id" .string "") (plainField "success" .bool "")
      [(.id, [plainField "id" .string ""]), (.success, [plainField "success" .bool ""])]
      (by decide +kernel)
  refine ⟨schema, entity, operation, hschema, hentity, hoperation, ?_, fun use huse ↦ ?_⟩
  · simpa [Function.comp_def] using congrArg (List.map Prod.fst) huses
  · obtain ⟨field, hfield, -, hplain, -⟩ := exists_isPlain_iff hschema hentity hoperation huse
    refine ⟨field, hfield, hplain.mpr ?_⟩
    have hpair := List.mem_map_of_mem huse (f := fun use ↦
      (use, use.fields [plainRemovalFile] operation.method))
    have hdeclared : ∀ pair ∈ [(PlainUse.id, [plainField "id" .string ""]),
        (.success, [plainField "success" .bool ""])], ∀ field ∈ pair.2,
          field.inOneof = false ∧ field.optional = false := by
      decide
    obtain ⟨houtside, hoptional⟩ := hdeclared _ (huses ▸ hpair) field hfield
    exact ⟨houtside, fun _ ↦ hoptional⟩

/-- An id with presence is taken for a plain value. -/
theorem not_forall_isPlain :
    ¬ ∀ (files : List File) (requested : List String) (schema : Resolution) (entity : Entity)
        (kind : MethodKind) (operation : CrudMethod),
        resolve files requested = .ok schema → entity ∈ schema.entities →
        entity.methods.at? kind = some operation → ∀ use ∈ plainUses kind operation,
          ∃ field ∈ use.fields files operation.method, use.IsPlain kind field := by
  intro hall
  obtain ⟨schema, entity, operation, hschema, hentity, hoperation, huses⟩ :=
    exists_removal (optionalField "id" .string "") (plainField "success" .bool "")
      [(.id, [optionalField "id" .string ""]), (.success, [plainField "success" .bool ""])]
      (by decide +kernel)
  obtain ⟨use, rest, hmem, hid, -⟩ := List.map_eq_cons_iff.mp huses
  obtain ⟨rfl, hfields⟩ := Prod.mk.inj hid
  obtain ⟨field, hfield, hplain⟩ := hall _ _ schema entity .delete operation hschema hentity
    hoperation .id (hmem ▸ List.mem_cons_self)
  rw [hfields] at hfield
  obtain rfl := List.mem_singleton.mp hfield
  cases hplain.notOptional

end ProtoCrud.Handler
