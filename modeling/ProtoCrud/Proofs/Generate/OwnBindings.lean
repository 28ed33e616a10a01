import ProtoCrud.Proofs.Generate.MethodFate

/-!
# The owners of bindings

Bindings name entities without their packages. The walk records one for every method that takes a
place; a later method of the same name in the service takes the record over. At the end a binding is
kept if some resolved entity has its name, be it one of another package. So the bindings of a
service lead to entities of its own package as long as no entity that it records has failed while
one of the same name in another package was resolved.
-/

namespace ProtoCrud.Schema

open Descriptor (File)

/-- A new binding takes the place of those of its method, and leaves the others as they are. -/
theorem mem_bindName_iff {bindings : List (String × String)} {method entity name other : String} :
    (name, other) ∈ bindName bindings method entity ↔
      if method = name then other = entity else (name, other) ∈ bindings := by
  rw [bindName]
  split
  · next hbound =>
    obtain ⟨old, hold⟩ := Option.isSome_iff_exists.mp hbound
    have hmem := mem_of_lookup hold
    rw [List.mem_map]
    split
    · next heq =>
      subst heq
      constructor
      · rintro ⟨⟨key, value⟩, hbinding, hsame⟩
        dsimp only at hsame
        split at hsame
        · exact (Prod.mk.inj hsame).2.symm
        · next hne => exact absurd (Prod.mk.inj hsame).1 hne
      · rintro rfl
        exact ⟨_, hmem, if_pos rfl⟩
    · next hne =>
      constructor
      · rintro ⟨⟨key, value⟩, hbinding, hsame⟩
        dsimp only at hsame
        split at hsame
        · exact absurd (Prod.mk.inj hsame).1 hne
        · rwa [← hsame]
      · intro hbinding
        exact ⟨_, hbinding, if_neg fun heq ↦ hne heq.symm⟩
  · next hfree =>
    rw [List.mem_append, List.mem_singleton, Prod.mk.injEq]
    split
    · next heq =>
      subst heq
      have hnone : (method, other) ∉ bindings := fun hmem ↦
        hfree (List.lookup_isSome_iff.mpr ⟨_, hmem, beq_self_eq_true _⟩)
      simp [hnone]
    · next hne => simp [Ne.symm hne]

/-- The last method of a service that has a name and is marked with an operation. -/
def Service.lastMarked? (service : Service) (name : String) : Option Method :=
  service.methods.reverse.find? fun method ↦ method.kind.isSome && method.name = name

/-- Whether the last marked method of a name stands for an operation on an entity. -/
def Service.Records (index : TypeIndex) (service : Service) (name entity : String) : Prop :=
  ∃ method kind, service.lastMarked? name = some method ∧
    method.Fills index service.package entity kind

/-- Whether the bindings of a service are those that its marked methods record. -/
def Service.BindsRecorded (index : TypeIndex) (service : Service) : Prop :=
  ∀ name entity, (name, entity) ∈ service.bindings ↔ service.Records index name entity

section Walk

variable {index : TypeIndex} {service : Service} {name entity : String}

theorem lastMarked?_withMethod (service : Service) (method : Method) (name : String) :
    (service.withMethod method).lastMarked? name =
      if method.kind.isSome && method.name = name then some method
      else service.lastMarked? name := by
  rw [Service.lastMarked?, Service.withMethod, List.reverse_append, List.reverse_singleton,
    List.singleton_append, List.find?_cons]
  split
  · next h => rw [if_pos h]
  · next h => rw [if_neg (by simp [h]), Service.lastMarked?]

/-- A method that takes no place is not marked, and one that takes a place is recorded at once. -/
theorem Service.BindsRecorded.walkMethod (hindex : index.KeepsNames)
    (h : service.BindsRecorded index) (walk : Walk) (descriptor : Descriptor.Method) :
    (walkMethod index walk service descriptor).2.BindsRecorded index := by
  intro name entity
  rcases walkMethod_cases index walk service descriptor with
    ⟨_, heq, -⟩ | ⟨kind, owner, hbound, -, heq⟩ <;> rw [heq]
  · have hlast : (service.withMethod (Method.ofDescriptor index descriptor)).lastMarked? name =
        service.lastMarked? name :=
      lastMarked?_withMethod ..
    rw [Service.Records, hlast]
    exact h name entity
  · have hfills := fills_marked hindex hbound
    have hlast : Service.lastMarked? { service.withMethod (.marked index descriptor kind) with
        bindings := bindName service.bindings descriptor.name owner } name =
          if descriptor.name = name then some (.marked index descriptor kind)
          else service.lastMarked? name := by
      change (service.withMethod (.marked index descriptor kind)).lastMarked? name = _
      simp [lastMarked?_withMethod, Method.marked, Method.ofDescriptor]
    rw [mem_bindName_iff, Service.Records, hlast]
    split
    · constructor
      · rintro rfl
        exact ⟨_, kind, rfl, hfills⟩
      · rintro ⟨method, other, hmethod, hother⟩
        cases hmethod
        exact (hother.unique hfills).1
    · exact h name entity

/-- Behind a walk over files the bindings of all services are those that are recorded. -/
theorem bindsRecorded_walkFiles (hindex : index.KeepsNames) (files : List File) :
    ∀ service ∈ (walkFiles index {} files).2, service.BindsRecorded index := by
  have hwalked : ∀ service ∈ [] ++ (walkFiles index {} files).2, service.BindsRecorded index := by
    refine walkFiles_induction index
      (P := fun _ services ↦ ∀ service ∈ services, service.BindsRecorded index)
      (fun walk done name package h ↦ ?_) (fun walk done service descriptor h ↦ ?_)
      (List.forall_mem_nil _) files
    · refine List.forall_mem_append.mpr ⟨h, List.forall_mem_singleton.mpr fun method entity ↦ ?_⟩
      simp [Service.Records, Service.lastMarked?]
    · obtain ⟨hdone, hservice⟩ := List.forall_mem_append.mp h
      exact List.forall_mem_append.mpr ⟨hdone, List.forall_mem_singleton.mpr
        ((List.forall_mem_singleton.mp hservice).walkMethod hindex walk descriptor)⟩
  rwa [List.nil_append] at hwalked

end Walk

/-- Whether a schema has resolved the entity of a name in the package of a service. -/
def Resolution.Owns (schema : Resolution) (service : Service) (name : String) : Prop :=
  (service.package, name) ∈ schema.entities.map Entity.key

section Schemas

variable {files targets : List File} {requested : List String} {schema : Resolution}
  {service : Service} {name entity : String}

/-- A binding is kept if an entity of its name was resolved in any package. -/
theorem mem_bindings_iff (h : resolve files requested = .ok schema)
    (hservice : service ∈ schema.services) :
    (name, entity) ∈ service.bindings ↔
      service.Records (TypeIndex.ofFiles files) name entity ∧
        entity ∈ schema.entities.map (·.name) := by
  obtain ⟨targets, walk, services, -, hwalk, -, hservices⟩ := resolve_cases h
  rw [hservices] at hservice
  obtain ⟨whole, hwhole, rfl⟩ := List.mem_map.mp hservice
  have hrecorded := bindsRecorded_walkFiles (keepsNames_ofFiles files) targets whole
    (by rwa [hwalk])
  rw [Service.retainBindings, List.mem_filter, hrecorded name entity, List.contains_iff_mem]
  rfl

/-- The schema shows what has become of an entity that a service records. -/
theorem shows_of_records (h : resolve files requested = .ok schema)
    (htargets : requestedFiles files requested = .ok targets)
    (hservice : service ∈ schema.services)
    (hrecords : service.Records (TypeIndex.ofFiles files) name entity) :
    schema.Shows service.package entity (outcomeOf files targets service.package entity) := by
  obtain ⟨method, kind, hlast, hfills⟩ := hrecords
  have hmethod : method ∈ service.methods := List.mem_reverse.mp (List.mem_of_find?_eq_some hlast)
  exact resolve_shows htargets h (mem_entities_of_fills h htargets hservice hmethod hfills)

/-- A schema owns the entities that did not fail. -/
theorem Resolution.Shows.owns_iff {outcome : Except Reason Entity}
    (hshows : schema.Shows service.package entity outcome) :
    schema.Owns service entity ↔ ∀ reason, outcome ≠ .error reason := by
  constructor
  · rintro howns reason rfl
    obtain ⟨resolved, hresolved, hkey⟩ := List.mem_map.mp howns
    exact List.filter_eq_nil_iff.mp hshows.entities_eq resolved hresolved (decide_eq_true hkey)
  · intro hok
    cases outcome with
    | error reason => exact absurd rfl (hok reason)
    | ok resolved =>
      have hmem : resolved ∈ schema.entities.filter (·.key = (service.package, entity)) := by
        rw [hshows.entities_eq]
        exact List.mem_singleton_self _
      obtain ⟨hresolved, hkey⟩ := List.mem_filter.mp hmem
      exact List.mem_map.mpr ⟨resolved, hresolved, of_decide_eq_true hkey⟩

/--
A service binds a method name to an entity if its last marked method of that name stands for an
operation on the entity and an entity of this name was resolved in any package. So all bindings lead
to entities of the packages of their services if and only if no entity that a service records and
that failed in its package has a namesake that was resolved.
-/
theorem bindings_areOwn_iff (h : resolve files requested = .ok schema)
    (htargets : requestedFiles files requested = .ok targets) :
    (∀ service ∈ schema.services, ∀ name entity, (name, entity) ∈ service.bindings ↔
      service.Records (TypeIndex.ofFiles files) name entity ∧
        entity ∈ schema.entities.map (·.name)) ∧
    ((∀ service ∈ schema.services, ∀ name entity, (name, entity) ∈ service.bindings →
        schema.Owns service entity) ↔
      ∀ service ∈ schema.services, ∀ name entity,
        service.Records (TypeIndex.ofFiles files) name entity → ∀ reason,
          outcomeOf files targets service.package entity = .error reason →
            entity ∉ schema.entities.map (·.name)) := by
  refine ⟨fun service hservice _ _ ↦ mem_bindings_iff h hservice, ?_, ?_⟩
  · intro howns service hservice name entity hrecords reason herror hnamesake
    have hbinding := (mem_bindings_iff h hservice).mpr ⟨hrecords, hnamesake⟩
    have hshows := shows_of_records h htargets hservice hrecords
    exact hshows.owns_iff.mp (howns service hservice name entity hbinding) reason herror
  · intro hnone service hservice name entity hbinding
    obtain ⟨hrecords, hnamesake⟩ := (mem_bindings_iff h hservice).mp hbinding
    refine (shows_of_records h htargets hservice hrecords).owns_iff.mpr fun reason herror ↦ ?_
    exact hnone service hservice name entity hrecords reason herror hnamesake

end Schemas

/-- A file of a package whose users cannot be resolved. -/
def shopUsers : File where
  name := "shop.proto"
  package := "shop"
  messages :=
    [.mk "User" [⟨"id", .optional, .string, "", false, false⟩,
        ⟨"tags", .repeated, .string, "", false, false⟩] [] [],
      .mk "LookupRequest" [⟨"id", .optional, .string, "", false, false⟩] [] []]
  enums := []
  services :=
    [⟨"Users", [⟨"GetUser", ".shop.LookupRequest", ".shop.User", false, false⟩]⟩]

/-- A file of another package with one message that can be resolved. -/
def clubFile (message method : String) : File where
  name := "club.proto"
  package := "club"
  messages :=
    [.mk message [⟨"id", .optional, .string, "", false, false⟩] [] [],
      .mk "LookupRequest" [⟨"id", .optional, .string, "", false, false⟩] [] []]
  enums := []
  services :=
    [⟨"Club", [⟨method, ".club.LookupRequest", ".club." ++ message, false, false⟩]⟩]

/-- The users of the shop fail, and the club has members: nothing has the name of what failed. -/
theorem bindings_areOwn_members :
    ∃ schema, resolve [shopUsers, clubFile "Member" "GetMember"] ["shop.proto", "club.proto"] =
        .ok schema ∧
      requestedFiles [shopUsers, clubFile "Member" "GetMember"] ["shop.proto", "club.proto"] =
        .ok [shopUsers, clubFile "Member" "GetMember"] ∧
      schema.services.map (·.bindings) = [[], [("GetMember", "Member")]] ∧
      ∀ service ∈ schema.services, ∀ name entity,
        service.Records (TypeIndex.ofFiles [shopUsers, clubFile "Member" "GetMember"]) name
          entity → ∀ reason,
            outcomeOf [shopUsers, clubFile "Member" "GetMember"]
                [shopUsers, clubFile "Member" "GetMember"] service.package entity =
              .error reason → entity ∉ schema.entities.map (·.name) := by
  have hread : (resolve [shopUsers, clubFile "Member" "GetMember"]
      ["shop.proto", "club.proto"]).toOption.map (fun schema ↦
        (schema.services.map (·.bindings), decide (∀ service ∈ schema.services,
          ∀ binding ∈ service.bindings,
            (service.package, binding.2) ∈ schema.entities.map Entity.key))) =
      some ([[], [("GetMember", "Member")]], true) := by
    decide +kernel
  obtain ⟨schema, hschema, hfound⟩ := exists_resolve hread
  obtain ⟨hbindings, howns⟩ := Prod.mk.inj hfound
  have howns := of_decide_eq_true howns
  have htargets : requestedFiles [shopUsers, clubFile "Member" "GetMember"]
      ["shop.proto", "club.proto"] = .ok [shopUsers, clubFile "Member" "GetMember"] := by
    rfl
  refine ⟨schema, hschema, htargets, hbindings, ?_⟩
  exact (bindings_areOwn_iff hschema htargets).2.mp
    fun service hservice name entity hbinding ↦ howns service hservice _ hbinding

/-- Both packages have users: the binding to those of the shop is kept for those of the club. -/
theorem not_forall_bindings_areOwn :
    ¬ ∀ files requested schema, resolve files requested = .ok schema →
      ∀ service ∈ schema.services, ∀ name entity, (name, entity) ∈ service.bindings →
        schema.Owns service entity := by
  intro h
  have hread : (resolve [shopUsers, clubFile "User" "GetUser"]
      ["shop.proto", "club.proto"]).toOption.map (fun schema ↦
        decide (∀ service ∈ schema.services, ∀ binding ∈ service.bindings,
          (service.package, binding.2) ∈ schema.entities.map Entity.key)) = some false := by
    decide +kernel
  obtain ⟨schema, hschema, hfound⟩ := exists_resolve hread
  refine of_decide_eq_false hfound fun service hservice binding hbinding ↦ ?_
  exact h _ _ schema hschema service hservice binding.1 binding.2 hbinding

end ProtoCrud.Schema
