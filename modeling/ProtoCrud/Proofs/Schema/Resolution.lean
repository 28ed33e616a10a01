import Mathlib.Data.List.Nodup
import ProtoCrud.Schema.Resolve

/-!
# What resolved entities are made of

An entity that could be resolved has gone through a fixed row of steps without a failure. Each of
them is inverted here once: what one field adds, what all fields of a message add up to, what an
operation was checked for, and from which message an entity of a resolved schema comes.
-/

namespace ProtoCrud.Schema

open Descriptor (File Message)

theorem bind_eq_ok {ε β γ : Type} {x : Except ε β} {f : β → Except ε γ} {c : γ} :
    x >>= f = .ok c ↔ ∃ b, x = .ok b ∧ f b = .ok c := by
  cases x with
  | error e => exact ⟨nofun, fun ⟨_, h, _⟩ ↦ nomatch h⟩
  | ok b => exact ⟨fun h ↦ ⟨b, rfl, h⟩, fun ⟨_, rfl, h⟩ ↦ h⟩

theorem nodup_eraseDups {α : Type} [BEq α] [LawfulBEq α] (l : List α) : l.eraseDups.Nodup := by
  match l with
  | [] => simp
  | a :: rest =>
    rw [List.eraseDups_cons, List.nodup_cons]
    refine ⟨fun hmem ↦ ?_, nodup_eraseDups _⟩
    simp at hmem
termination_by l.length
decreasing_by
  exact Nat.lt_succ_of_le (List.length_filter_le _ rest)

section Entries

variable {β : Type} {entries : List (String × β)} {key : String} {value : β}

theorem mem_of_lookup (h : entries.lookup key = some value) : (key, value) ∈ entries := by
  obtain ⟨before, after, rfl, -⟩ := List.lookup_eq_some_iff.mp h
  exact List.mem_append_right _ List.mem_cons_self

/-- An entry is found under its name if no other entry has that name. -/
theorem lookup_of_mem (hnodup : (entries.map Prod.fst).Nodup) (hmem : (key, value) ∈ entries) :
    entries.lookup key = some value := by
  obtain ⟨before, after, rfl⟩ := List.append_of_mem hmem
  rw [List.lookup_eq_some_iff]
  refine ⟨before, after, rfl, fun entry hentry ↦ ?_⟩
  rw [List.map_append, List.map_cons, List.nodup_append] at hnodup
  have hne := hnodup.2.2 _ (List.mem_map_of_mem hentry) _ List.mem_cons_self
  simpa using hne.symm

/-- If names are distinct, it does not matter that the last entry of a name would count. -/
theorem lookup_reverse_eq_some_iff (hnodup : (entries.map Prod.fst).Nodup) :
    entries.reverse.lookup key = some value ↔ (key, value) ∈ entries := by
  have hreverse : (entries.reverse.map Prod.fst).Nodup := by
    rw [List.map_reverse]
    exact List.nodup_reverse.mpr hnodup
  constructor
  · exact fun h ↦ List.mem_reverse.mp (mem_of_lookup h)
  · exact fun h ↦ lookup_of_mem hreverse (List.mem_reverse.mpr h)

theorem exists_lookup (h : key ∈ entries.map Prod.fst) :
    ∃ value, entries.lookup key = some value := by
  obtain ⟨entry, hentry, rfl⟩ := List.mem_map.mp h
  exact Option.isSome_iff_exists.mp
    (List.lookup_isSome_iff.mpr ⟨entry, hentry, beq_self_eq_true _⟩)

end Entries

/-- What has a name that nothing else has is what a search for that name finds. -/
theorem find?_eq_some_iff_of_name {α : Type} {name : α → String} {items : List α}
    (hnodup : (items.map name).Nodup) {p : α → Bool} {key : String}
    (hp : ∀ item, p item = true → name item = key) {item : α} :
    items.find? p = some item ↔ item ∈ items ∧ p item = true := by
  constructor
  · exact fun h ↦ ⟨List.mem_of_find?_eq_some h, List.find?_some h⟩
  · rintro ⟨hitem, hholds⟩
    obtain ⟨first, hfirst⟩ := Option.isSome_iff_exists.mp
      (List.find?_isSome.mpr ⟨item, hitem, hholds⟩)
    have hname := (hp first (List.find?_some hfirst)).trans (hp item hholds).symm
    rw [hfirst, List.inj_on_of_nodup_map hnodup (List.mem_of_find?_eq_some hfirst) hitem hname]

theorem find?_name_eq_some_iff {α : Type} {name : α → String} {items : List α}
    (hnodup : (items.map name).Nodup) {key : String} {item : α} :
    items.find? (name · = key) = some item ↔ item ∈ items ∧ name item = key := by
  rw [find?_eq_some_iff_of_name hnodup fun _ h ↦ of_decide_eq_true h, decide_eq_true_eq]

/-- What one field can add: the id, an audit column, a stored field, or one with its enum. -/
theorem Fields.add_cases {index : TypeIndex} {fields next : Fields} {field : Field}
    (hadd : fields.add index field = .ok next) :
    field.name = idColumn ∧ next = { fields with hasId := true } ∨
      next = { fields with audit := fields.audit.declare field.name field.optional } ∨
      field.enumName? = none ∧ next = { fields with stored := fields.stored ++ [field] } ∨
      ∃ name definition, field.enumName? = some name ∧ index.enum? name = some definition ∧
        definition.variants ≠ [] ∧
        next = { fields with
          stored := fields.stored ++ [field]
          enums := declareEnum fields.enums name definition } := by
  unfold Fields.add at hadd
  split at hadd
  · next hid =>
    split at hadd <;> cases hadd
    exact .inl ⟨hid, rfl⟩
  split at hadd
  · split at hadd <;> cases hadd
    exact .inr (.inl rfl)
  split at hadd
  · split at hadd <;> cases hadd
    exact .inr (.inl rfl)
  split at hadd
  · next hname =>
    cases hadd
    exact .inr (.inr (.inl ⟨hname, rfl⟩))
  · next name hname =>
    split at hadd
    · cases hadd
    · next definition hdefinition =>
      split at hadd <;> cases hadd
      next hvariants =>
        exact .inr (.inr (.inr ⟨name, definition, hname, hdefinition,
          by simpa using hvariants, rfl⟩))

/-- What every field preserves holds once all of them have been taken into account. -/
theorem Fields.addAll_induction {index : TypeIndex} {P : Fields → Prop}
    {descriptors : List Descriptor.Field}
    (hstep : ∀ descriptor ∈ descriptors, ∀ fields field next,
      Field.ofDescriptor descriptor = .ok field → P fields →
        fields.add index field = .ok next → P next)
    {fields last : Fields} (h : P fields) (hadd : fields.addAll index descriptors = .ok last) :
    P last := by
  induction descriptors generalizing fields with
  | nil =>
    cases hadd
    exact h
  | cons descriptor rest ih =>
    rw [Fields.addAll] at hadd
    obtain ⟨field, hfield, hadd⟩ := bind_eq_ok.mp hadd
    obtain ⟨next, hnext, hadd⟩ := bind_eq_ok.mp hadd
    have hfirst : P next := hstep descriptor List.mem_cons_self _ _ _ hfield h hnext
    exact ih (fun other hother ↦ hstep other (List.mem_cons_of_mem _ hother)) hfirst hadd

/-- All fields of a message that could be taken into account were added, each to some others. -/
theorem Fields.exists_add {index : TypeIndex} {descriptors : List Descriptor.Field}
    {fields last : Fields} (hadd : fields.addAll index descriptors = .ok last) :
    ∀ descriptor ∈ descriptors, ∃ (before next : Fields) (field : Field),
      Field.ofDescriptor descriptor = .ok field ∧ before.add index field = .ok next := by
  induction descriptors generalizing fields with
  | nil => exact List.forall_mem_nil _
  | cons descriptor rest ih =>
    rw [Fields.addAll] at hadd
    obtain ⟨field, hfield, hadd⟩ := bind_eq_ok.mp hadd
    obtain ⟨next, hnext, hadd⟩ := bind_eq_ok.mp hadd
    exact List.forall_mem_cons.mpr ⟨⟨fields, next, field, hfield, hnext⟩, ih hadd⟩

/-- Every stored field is that of a descriptor. -/
theorem Fields.exists_descriptor {index : TypeIndex} {descriptors : List Descriptor.Field}
    {last : Fields} (hadd : ({} : Fields).addAll index descriptors = .ok last) :
    ∀ field ∈ last.stored, ∃ descriptor ∈ descriptors,
      Field.ofDescriptor descriptor = .ok field := by
  refine Fields.addAll_induction (P := fun fields ↦ ∀ field ∈ fields.stored,
    ∃ descriptor ∈ descriptors, Field.ofDescriptor descriptor = .ok field) ?_ ?_ hadd
  · intro descriptor hdescriptor fields added next hadded h hnext field hfield
    have hstored : field ∈ fields.stored ∨ field = added := by
      rcases Fields.add_cases hnext with ⟨-, rfl⟩ | rfl | ⟨-, rfl⟩ | ⟨_, _, -, -, -, rfl⟩
      · exact .inl hfield
      · exact .inl hfield
      · simpa using hfield
      · simpa using hfield
    rcases hstored with hfield | rfl
    · exact h field hfield
    · exact ⟨descriptor, hdescriptor, hadded⟩
  · exact fun _ hfield ↦ absurd hfield List.not_mem_nil

theorem column_ofDescriptor {descriptor : Descriptor.Field} {field : Field}
    (h : Field.ofDescriptor descriptor = .ok field) :
    field.name = descriptor.name ∧ field.column = descriptor.name := by
  rw [Field.ofDescriptor] at h
  split at h
  · cases h
  split at h
  · cases h
  · cases htype : fieldType descriptor with
    | error reason =>
      rw [htype] at h
      cases h
    | ok type =>
      rw [htype] at h
      cases h
      exact ⟨rfl, rfl⟩

/-- What is left of resolving an operation once its messages are known. -/
theorem crudMethod_of_messages {kind : MethodKind} {method : Method} {entity entityName : String}
    {stored : List Field} {input output : Message} {operation : CrudMethod}
    (h : (do
      let request ← requestShape kind input entity stored
      let response ← responseShape kind output method.output.fullName entityName
      pure ⟨method, request, response⟩) = Except.ok operation) :
    requestShape kind input entity stored = .ok operation.request ∧
      responseShape kind output method.output.fullName entityName = .ok operation.response ∧
      operation.method = method := by
  obtain ⟨request, hrequest, h⟩ := bind_eq_ok.mp h
  obtain ⟨response, hresponse, h⟩ := bind_eq_ok.mp h
  cases h
  exact ⟨hrequest, hresponse, rfl⟩

/-- A response is declared, or it is the message without fields. -/
def TypeIndex.IsResponse (index : TypeIndex) (fullName : String) (output : Message) : Prop :=
  index.message? fullName = some output ∨
    index.message? fullName = none ∧ fullName = emptyName ∧ output = emptyMessage

/-- The messages of an operation that could be resolved, with the shapes that were read. -/
theorem crudMethod_messages {index : TypeIndex} {entity entityName : String} {stored : List Field}
    {kind : MethodKind} {method : Method} {operation : CrudMethod}
    (h : crudMethod index entity entityName stored kind method = .ok operation) :
    ∃ input output, index.message? method.input.fullName = some input ∧
      index.IsResponse method.output.fullName output ∧
      requestShape kind input entity stored = .ok operation.request ∧
      responseShape kind output method.output.fullName entityName = .ok operation.response ∧
      operation.method = method := by
  rw [crudMethod] at h
  split at h
  · next input hinput =>
    obtain ⟨_, hok, h⟩ := bind_eq_ok.mp h
    cases hok
    dsimp only at h
    split at h
    · next output houtput =>
      obtain ⟨_, hok, h⟩ := bind_eq_ok.mp h
      cases hok
      exact ⟨input, output, hinput, .inl houtput, crudMethod_of_messages h⟩
    · next hnone =>
      split at h
      · next hempty =>
        exact ⟨input, emptyMessage, hinput, .inr ⟨hnone, hempty, rfl⟩, crudMethod_of_messages h⟩
      · cases h
  · cases h

/-- An operation that could be resolved has a declared request of the shape that was read. -/
theorem crudMethod_cases {index : TypeIndex} {entity entityName : String} {stored : List Field}
    {kind : MethodKind} {method : Method} {operation : CrudMethod}
    (h : crudMethod index entity entityName stored kind method = .ok operation) :
    ∃ input, index.message? method.input.fullName = some input ∧
      requestShape kind input entity stored = .ok operation.request ∧
      operation.method = method := by
  obtain ⟨input, _, hinput, -, hrequest, -, hmethod⟩ := crudMethod_messages h
  exact ⟨input, hinput, hrequest, hmethod⟩

/-- The operations of an entity are those of its methods. -/
theorem crudMethods_at? {index : TypeIndex} {entity entityName : String} {stored : List Field}
    {methods : List (MethodKind × Method)} {operations : Slots CrudMethod}
    (h : crudMethods index entity entityName stored methods = .ok operations) {kind : MethodKind}
    {operation : CrudMethod} (hkind : operations.at? kind = some operation) :
    ∃ method, (kind, method) ∈ methods ∧
      crudMethod index entity entityName stored kind method = .ok operation := by
  induction methods generalizing operations with
  | nil =>
    cases h
    cases kind <;> cases hkind
  | cons first rest ih =>
    obtain ⟨firstKind, method⟩ := first
    rw [crudMethods] at h
    obtain ⟨firstOperation, hfirst, h⟩ := bind_eq_ok.mp h
    obtain ⟨others, hothers, h⟩ := bind_eq_ok.mp h
    cases h
    rw [Slots.at?_fill] at hkind
    split at hkind
    · next heq =>
      cases hkind
      subst heq
      exact ⟨method, List.mem_cons_self, hfirst⟩
    · obtain ⟨other, hmem, hother⟩ := ih hothers hkind
      exact ⟨other, List.mem_cons_of_mem _ hmem, hother⟩

/-- The message and the operations that a resolved entity was made from. -/
theorem resolveEntity_cases {index : TypeIndex} {package name : String} {methods : Slots Method}
    {entity : Entity} (h : resolveEntity index package name methods = .ok entity) :
    ∃ message fields operations,
      index.message? (qualified (packageScope package) name) = some message ∧
        ({} : Fields).addAll index message.fields = .ok fields ∧ fields.hasId = true ∧
        crudMethods index name (qualified (packageScope package) name) fields.stored
          methods.toList = .ok operations ∧
        entity =
          { name, package, table := name
            fields := fields.stored
            audit := fields.audit
            methods := operations
            enums := fields.enums } := by
  rw [resolveEntity] at h
  split at h
  · next message hmessage =>
    obtain ⟨_, hok, h⟩ := bind_eq_ok.mp h
    cases hok
    obtain ⟨fields, hfields, h⟩ := bind_eq_ok.mp h
    split at h
    · cases h
    · next hid =>
      obtain ⟨operations, hoperations, h⟩ := bind_eq_ok.mp h
      cases h
      exact ⟨message, fields, operations, hmessage, hfields, by simpa using hid, hoperations, rfl⟩
  · cases h

/-- An entity with the names that it was resolved under. -/
def Entity.key (entity : Entity) : String × String :=
  (entity.package, entity.name)

theorem resolveEntity_key {index : TypeIndex} {package name : String} {methods : Slots Method}
    {entity : Entity} (h : resolveEntity index package name methods = .ok entity) :
    entity.key = (package, name) := by
  obtain ⟨_, _, _, -, -, -, -, rfl⟩ := resolveEntity_cases h
  rfl

theorem exists_of_mem_resolveEntities {index : TypeIndex} {walk : Walk}
    {names : List (String × String)} {entity : Entity}
    (h : entity ∈ (resolveEntities index walk names).1) :
    ∃ package name, (package, name) ∈ names ∧
      resolveEntity index package name (walk.methodsOf package name) = .ok entity := by
  induction names with
  | nil => cases h
  | cons first rest ih =>
    obtain ⟨package, name⟩ := first
    rw [resolveEntities] at h
    have hrest (h : entity ∈ (resolveEntities index walk rest).1) : ∃ other otherName,
        (other, otherName) ∈ (package, name) :: rest ∧
          resolveEntity index other otherName (walk.methodsOf other otherName) = .ok entity := by
      obtain ⟨other, otherName, hmem, hother⟩ := ih h
      exact ⟨other, otherName, List.mem_cons_of_mem (package, name) hmem, hother⟩
    cases hresolve : resolveEntity index package name (walk.methodsOf package name) with
    | error reason =>
      rw [hresolve] at h
      exact hrest h
    | ok resolved =>
      rw [hresolve] at h
      rcases List.mem_cons.mp h with rfl | h
      · exact ⟨package, name, List.mem_cons_self, hresolve⟩
      · exact hrest h

theorem keys_resolveEntities_sublist (index : TypeIndex) (walk : Walk)
    (names : List (String × String)) :
    ((resolveEntities index walk names).1.map Entity.key).Sublist names := by
  induction names with
  | nil => exact List.Sublist.slnil
  | cons first rest ih =>
    obtain ⟨package, name⟩ := first
    rw [resolveEntities]
    cases hresolve : resolveEntity index package name (walk.methodsOf package name) with
    | error reason => exact ih.cons _
    | ok resolved =>
      rw [List.map_cons, resolveEntity_key hresolve]
      exact ih.cons_cons _

theorem resolve_cases {files : List File} {requested : List String} {schema : Resolution}
    (h : resolve files requested = .ok schema) :
    ∃ targets walk services,
      requestedFiles files requested = .ok targets ∧
        walkFiles (TypeIndex.ofFiles files) {} targets = (walk, services) ∧
        schema.entities = (resolveEntities (TypeIndex.ofFiles files) walk walk.entities).1 ∧
        schema.services =
          services.map (·.retainBindings (schema.entities.map (·.name))) := by
  rw [resolve] at h
  obtain ⟨targets, htargets, h⟩ := bind_eq_ok.mp h
  cases h
  exact ⟨targets, _, _, htargets, rfl, rfl, rfl⟩

/-- A schema resolves if something can be read off the result of resolving it. -/
theorem exists_resolve {files : List File} {requested : List String} {β : Type}
    {read : Resolution → β} {value : β}
    (h : (resolve files requested).toOption.map read = some value) :
    ∃ schema, resolve files requested = .ok schema ∧ read schema = value := by
  cases hresolve : resolve files requested with
  | error missing =>
    rw [hresolve] at h
    cases h
  | ok schema =>
    rw [hresolve] at h
    exact ⟨schema, rfl, Option.some.inj h⟩

/-- A schema with one entity resolves if something can be read off the entities of the result. -/
theorem exists_entity {files : List File} {requested : List String} {β : Type} {read : Entity → β}
    {value : β}
    (h : (resolve files requested).toOption.map (fun schema ↦ schema.entities.map read) =
      some [value]) :
    ∃ schema entity, resolve files requested = .ok schema ∧ schema.entities = [entity] ∧
      read entity = value := by
  obtain ⟨schema, hschema, hentities⟩ := exists_resolve h
  obtain ⟨entity, hentity, hvalue⟩ := List.map_eq_singleton_iff.mp hentities
  exact ⟨schema, entity, hschema, hentity, hvalue⟩

/-- Every entity of a resolved schema was resolved from the declarations of the files. -/
theorem exists_resolveEntity {files : List File} {requested : List String} {schema : Resolution}
    (h : resolve files requested = .ok schema) {entity : Entity}
    (hentity : entity ∈ schema.entities) :
    ∃ package name methods,
      resolveEntity (TypeIndex.ofFiles files) package name methods = .ok entity := by
  obtain ⟨_, _, _, -, -, hentities, -⟩ := resolve_cases h
  obtain ⟨package, name, -, hresolve⟩ := exists_of_mem_resolveEntities (hentities ▸ hentity)
  exact ⟨package, name, _, hresolve⟩

/-- The messages of an operation of a resolved entity, with the shapes that were read. -/
theorem exists_messages {files : List File} {requested : List String} {schema : Resolution}
    (h : resolve files requested = .ok schema) {entity : Entity}
    (hentity : entity ∈ schema.entities) {kind : MethodKind} {operation : CrudMethod}
    (hoperation : entity.methods.at? kind = some operation) :
    ∃ input output,
      (TypeIndex.ofFiles files).message? operation.method.input.fullName = some input ∧
      (TypeIndex.ofFiles files).IsResponse operation.method.output.fullName output ∧
      requestShape kind input entity.name entity.fields = .ok operation.request ∧
      responseShape kind output operation.method.output.fullName
        (qualified (packageScope entity.package) entity.name) = .ok operation.response := by
  obtain ⟨package, name, methods, hresolve⟩ := exists_resolveEntity h hentity
  obtain ⟨_, fields, operations, -, -, -, hoperations, rfl⟩ := resolveEntity_cases hresolve
  obtain ⟨method, -, hmade⟩ := crudMethods_at? hoperations hoperation
  obtain ⟨input, output, hinput, houtput, hrequest, hresponse, rfl⟩ := crudMethod_messages hmade
  exact ⟨input, output, hinput, houtput, hrequest, hresponse⟩

/-- No two entities of a resolved schema have the same name and package. -/
theorem nodup_keys {files : List File} {requested : List String} {schema : Resolution}
    (h : resolve files requested = .ok schema) : (schema.entities.map Entity.key).Nodup := by
  obtain ⟨_, walk, _, -, -, hentities, -⟩ := resolve_cases h
  rw [hentities]
  exact (keys_resolveEntities_sublist _ walk _).nodup (nodup_eraseDups _)

end ProtoCrud.Schema
