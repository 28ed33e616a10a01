import ProtoCrud.Proofs.Generate.Isolation
import ProtoCrud.Proofs.Schema.Marking

/-!
# What becomes of a method

The walk leaves no method behind. Each of them joins its service, in the order of declaration, and
one whose name stands for an operation is marked with it, or comes after another one that is, or
refers to an entity that is reported as undefined. What is marked stays so, but its entity may not
resolve later on, and is then reported as well. So a method that stands for an operation is served,
or its entity is among the failures, or an earlier method serves the operation in its place.
-/

namespace ProtoCrud.Schema

open Descriptor (File)

/-- The entity that a method refers to, whether or not a message defines it. -/
def Binding.referred? : Binding → Option String
  | .unbound => none
  | .undefined entity => some entity
  | .bound _ entity => some entity

/--
Whether a method name stands for an operation of a kind. Only the name of a list may have a
qualifier.
-/
def StandsFor (name : String) (kind : MethodKind) : Prop :=
  ∃ subject, MethodKind.ofMethodName? name = some (kind, subject) ∧
    (kind ≠ .list → stripQualifier subject = subject)

theorem bindList_cases (index : TypeIndex) (package plural output : String) :
    ∃ entity, bindList index package plural output = .bound .list entity ∨
      bindList index package plural output = .undefined entity := by
  unfold bindList
  dsimp only
  split
  · exact ⟨_, .inl rfl⟩
  split
  · exact ⟨_, .inl rfl⟩
  split
  · exact ⟨_, .inl rfl⟩
  · exact ⟨_, .inr rfl⟩

/-- A method whose name stands for an operation is bound to it, or its entity is undefined. -/
theorem StandsFor.bindMethod_cases (descriptor : Descriptor.Method) {kind : MethodKind}
    (h : StandsFor descriptor.name kind) (index : TypeIndex) (package : String) :
    ∃ entity, bindMethod index package descriptor = .bound kind entity ∨
      bindMethod index package descriptor = .undefined entity := by
  obtain ⟨subject, hname, hqualifier⟩ := h
  have hother (hkind : kind ≠ .list) (hbind : bindMethod index package descriptor =
      if stripQualifier subject ≠ subject then .unbound
      else if index.declares package subject then .bound kind subject
      else .undefined subject) :
      ∃ entity, bindMethod index package descriptor = .bound kind entity ∨
        bindMethod index package descriptor = .undefined entity := by
    rw [hbind, if_neg (not_not.mpr (hqualifier hkind))]
    refine ⟨subject, ?_⟩
    split
    · exact .inl rfl
    · exact .inr rfl
  cases kind with
  | create => exact hother nofun (by rw [bindMethod, hname])
  | get => exact hother nofun (by rw [bindMethod, hname])
  | update => exact hother nofun (by rw [bindMethod, hname])
  | delete => exact hother nofun (by rw [bindMethod, hname])
  | list =>
    rw [bindMethod, hname]
    exact bindList_cases ..

def methodsOfServices (services : List Service) : List (String × Method) :=
  services.flatMap fun service ↦ service.methods.map (service.package, ·)

/-- What the walk can have made of a method, given the failures and the methods before it. -/
inductive Method.Fate (index : TypeIndex) (failures : List Failure)
    (earlier : List (String × Method)) (package : String) (method : Method) : Prop
  /-- It stands for no operation. -/
  | unbound (hbinding : method.binding index package = .unbound)
  /-- It refers to an entity that is reported as undefined. -/
  | undefined {entity : String} (hbinding : method.binding index package = .undefined entity)
      (hreported : entity ∈ failures.map (·.entity))
  /-- It is marked with the operation that it stands for. -/
  | marked {kind : MethodKind} {entity : String}
      (hfills : method.Fills index package entity kind)
  /-- It is not marked, as an earlier method of the package is marked with its operation. -/
  | late {kind : MethodKind} {entity : String} {first : Method}
      (hbinding : method.binding index package = .bound kind entity)
      (hkind : method.kind = none) (hfirst : (package, first) ∈ earlier)
      (hfills : first.Fills index package entity kind)

def TellsFates (index : TypeIndex) (failures : List Failure) (services : List Service) : Prop :=
  ∀ earlier package method, earlier ++ [(package, method)] <+: methodsOfServices services →
    method.Fate index failures earlier package

section Walk

variable {index : TypeIndex} {walk : Walk} {done : List Service} {service : Service}

/-- Further failures change nothing about the methods so far. -/
theorem Method.Fate.mono {failures more : List Failure} {earlier : List (String × Method)}
    {package : String} {method : Method} (h : method.Fate index failures earlier package)
    (hsubset : failures ⊆ more) : method.Fate index more earlier package := by
  cases h with
  | unbound hbinding => exact .unbound hbinding
  | undefined hbinding hreported => exact .undefined hbinding (List.map_subset _ hsubset hreported)
  | marked hfills => exact .marked hfills
  | late hbinding hkind hfirst hfills => exact .late hbinding hkind hfirst hfills

theorem noteUndefined_spec (failures : List Failure) (entity method : String) :
    failures ⊆ noteUndefined failures entity method ∧
      entity ∈ (noteUndefined failures entity method).map (·.entity) := by
  rw [noteUndefined]
  split
  · next hany =>
    obtain ⟨failure, hfailure, hentity⟩ := List.any_eq_true.mp hany
    exact ⟨List.Subset.refl _, List.mem_map.mpr ⟨failure, hfailure, by simpa using hentity⟩⟩
  · exact ⟨List.subset_append_left _ _, by simp⟩

/-- One more method joins its service, and has its fate at once. -/
theorem walkMethod_fate (hindex : index.KeepsNames) (h : Walked index walk (done ++ [service]))
    (descriptor : Descriptor.Method) :
    ∃ method,
      (walkMethod index walk service descriptor).2.methods = service.methods ++ [method] ∧
      walk.failures ⊆ (walkMethod index walk service descriptor).1.failures ∧
      method.Fate index (walkMethod index walk service descriptor).1.failures
        (methodsOfServices (done ++ [service])) service.package := by
  have hown (kind : Option MethodKind) : Method.binding index service.package
      { Method.ofDescriptor index descriptor with kind } =
        bindMethod index service.package descriptor := by
    rw [Method.binding, toDescriptor_ofDescriptor hindex]
  rw [walkMethod]
  dsimp only
  split
  · next hbound => exact ⟨_, rfl, List.Subset.refl _, .unbound ((hown none).trans hbound)⟩
  · next entity hbound =>
    obtain ⟨hsubset, hreported⟩ := noteUndefined_spec walk.failures entity descriptor.name
    exact ⟨_, rfl, hsubset, .undefined ((hown none).trans hbound) hreported⟩
  · next kind entity hbound =>
    split
    · next htaken =>
      obtain ⟨owner, howner, hpackage, first, hfirst, hfills⟩ := h.exists_fills htaken
      have hearlier : (service.package, first) ∈ methodsOfServices (done ++ [service]) :=
        List.mem_flatMap.mpr ⟨owner, howner, hpackage ▸ List.mem_map_of_mem hfirst⟩
      exact ⟨_, rfl, List.Subset.refl _,
        .late ((hown none).trans hbound) rfl hearlier hfills⟩
    · exact ⟨_, rfl, List.Subset.refl _, .marked (fills_marked hindex hbound)⟩

theorem TellsFates.walkMethod (hindex : index.KeepsNames)
    (hwalked : Walked index walk (done ++ [service]))
    (h : TellsFates index walk.failures (done ++ [service])) (descriptor : Descriptor.Method) :
    TellsFates index (walkMethod index walk service descriptor).1.failures
      (done ++ [(walkMethod index walk service descriptor).2]) := by
  obtain ⟨added, hmethods, hsubset, hfate⟩ := walkMethod_fate hindex hwalked descriptor
  have hall : methodsOfServices (done ++ [(Schema.walkMethod index walk service descriptor).2]) =
      methodsOfServices (done ++ [service]) ++ [(service.package, added)] := by
    simp [methodsOfServices, hmethods, package_walkMethod]
  intro earlier package method hprefix
  rw [hall, List.prefix_concat_iff] at hprefix
  rcases hprefix with hlast | hbefore
  · obtain ⟨hearlier, hmethod⟩ := List.append_inj' hlast rfl
    obtain ⟨rfl, rfl⟩ := Prod.mk.inj (List.singleton_inj.mp hmethod)
    rw [hearlier]
    exact hfate
  · exact (h earlier package method hbefore).mono hsubset

/-- Behind a walk over files every method has its fate. -/
theorem tellsFates_walkFiles (hindex : index.KeepsNames) (files : List File) :
    TellsFates index (walkFiles index {} files).1.failures (walkFiles index {} files).2 := by
  have hstart : TellsFates index [] [] := by
    intro earlier package method hprefix
    exact absurd (List.prefix_nil.mp hprefix) (by simp)
  have hboth := walkFiles_induction index
    (P := fun walk services ↦ Walked index walk services ∧
      TellsFates index walk.failures services)
    (fun walk done name package h ↦ ⟨h.1.start name package, by
      simpa [TellsFates, methodsOfServices] using h.2⟩)
    (fun walk done service descriptor h ↦
      ⟨h.1.walkMethod hindex descriptor, h.2.walkMethod hindex h.1 descriptor⟩)
    ⟨walked_nil index, hstart⟩ files
  rw [List.nil_append] at hboth
  exact hboth.2

end Walk

/-- Whether a method is served: its entity has been resolved with it, and its service binds it. -/
structure Resolution.Serves (schema : Resolution) (service : Service) (kind : MethodKind)
    (entity : String) (method : Method) : Prop where
  kind_eq : method.kind = some kind
  bound : service.bindings.lookup method.name = some entity
  performed : ∃ resolved ∈ schema.entities,
    resolved.key = (service.package, entity) ∧ resolved.Performs kind method

/-- Whether a method is passed over for one of the given ones, which serves its operation. -/
structure Service.PassesOver (index : TypeIndex) (service : Service)
    (earlier : List (String × Method)) (kind : MethodKind) (entity : String) (method : Method) :
    Prop where
  kind_eq : method.kind = none
  unbound : service.bindings.lookup method.name = none
  exists_first : ∃ first, (service.package, first) ∈ earlier ∧
    first.Fills index service.package entity kind

section Schemas

variable {files targets : List File} {requested : List String} {schema : Resolution}

/-- The services of a schema declare no two methods of one name if those of the files do not. -/
theorem nodup_method_names
    (hreflects : schema.Reflects (TypeIndex.ofFiles files) targets)
    (hnames : ∀ file ∈ targets, ∀ service ∈ file.services,
      (service.methods.map (·.name)).Nodup) {service : Service}
    (hservice : service ∈ schema.services) : (service.methods.map (·.name)).Nodup := by
  have hdeclared : service.declared ∈ declaredServices (TypeIndex.ofFiles files) targets := by
    rw [← hreflects.declared]
    exact List.mem_map_of_mem hservice
  obtain ⟨file, hfile, hmem⟩ := List.mem_flatMap.mp hdeclared
  obtain ⟨descriptor, hdescriptor, heq⟩ := List.mem_map.mp hmem
  have hsame : service.methods.map (·.name) = descriptor.methods.map (·.name) := by
    rw [← names_declared, ← heq, List.map_map]
    rfl
  rw [hsame]
  exact hnames file hfile descriptor hdescriptor

/-- The entity of a marked method is one that the walk has found. -/
theorem mem_entities_of_fills (h : resolve files requested = .ok schema)
    (htargets : requestedFiles files requested = .ok targets) {service : Service}
    (hservice : service ∈ schema.services) {kind : MethodKind} {entity : String} {method : Method}
    (hmethod : method ∈ service.methods)
    (hfills : method.Fills (TypeIndex.ofFiles files) service.package entity kind) :
    (service.package, entity) ∈ (walkFiles (TypeIndex.ofFiles files) {} targets).1.entities := by
  have hmarked := hfills.mem_marked hservice hmethod
  have hwalked := walked_walkFiles (keepsNames_ofFiles files) targets
  obtain ⟨found, walk, services, hsame, hwalk, -, hservices⟩ := resolve_cases h
  obtain rfl : found = targets := Except.ok.inj (hsame.symm.trans htargets)
  rw [hwalk] at hwalked ⊢
  rw [hservices, List.flatMap_map] at hmarked
  have hplace := hwalked.mem_places_iff.mpr ⟨hmarked, hfills⟩
  rw [Walk.entities, List.mem_eraseDups]
  exact List.mem_map.mpr ⟨_, hplace, rfl⟩

/-- A marked method is served, or its entity could not be resolved and is reported. -/
theorem serves_or_mem_failures (h : resolve files requested = .ok schema)
    (htargets : requestedFiles files requested = .ok targets) {service : Service}
    (hservice : service ∈ schema.services) (hunique : (service.methods.map (·.name)).Nodup)
    {kind : MethodKind} {entity : String} {method : Method} (hmethod : method ∈ service.methods)
    (hfills : method.Fills (TypeIndex.ofFiles files) service.package entity kind) :
    schema.Serves service kind entity method ∨ entity ∈ schema.failures.map (·.entity) := by
  have hreflects := resolve_reflects h htargets
  have hmarked := hfills.mem_marked hservice hmethod
  have hfound := mem_entities_of_fills h htargets hservice hmethod hfills
  have hshows := resolve_shows htargets h hfound
  cases houtcome : outcomeOf files targets service.package entity with
  | error reason =>
    exact .inr (List.mem_map.mpr ⟨_, hshows.mem_failures reason houtcome, rfl⟩)
  | ok resolved =>
    have hmem : resolved ∈ schema.entities.filter (·.key = (service.package, entity)) := by
      rw [hshows.entities_eq, houtcome]
      exact List.mem_singleton_self _
    obtain ⟨hresolved, hkey⟩ := List.mem_filter.mp hmem
    have hkey : resolved.key = (service.package, entity) := of_decide_eq_true hkey
    obtain ⟨hpackage, hname⟩ := Prod.mk.inj hkey
    refine .inl ⟨hfills.1, ?_, resolved, hresolved, hkey, ?_⟩
    · exact (hreflects.lookup_iff service hservice hunique method hmethod entity).mpr
        ⟨List.mem_map.mpr ⟨resolved, hresolved, hname⟩, kind, hfills⟩
    · rw [hreflects.performs_iff resolved hresolved, hpackage, hname]
      exact ⟨hmarked, hfills⟩

/-- A method that is not marked has no binding. -/
theorem lookup_eq_none (hreflects : schema.Reflects (TypeIndex.ofFiles files) targets)
    {service : Service} (hservice : service ∈ schema.services)
    (hunique : (service.methods.map (·.name)).Nodup) {method : Method}
    (hmethod : method ∈ service.methods) (hkind : method.kind = none) :
    service.bindings.lookup method.name = none := by
  rw [Option.eq_none_iff_forall_ne_some]
  intro entity hlookup
  obtain ⟨-, kind, hfills⟩ :=
    (hreflects.lookup_iff service hservice hunique method hmethod entity).mp hlookup
  cases hkind.symm.trans hfills.1

/-- The fates of the methods of a schema. -/
theorem resolve_tellsFates (h : resolve files requested = .ok schema)
    (htargets : requestedFiles files requested = .ok targets) :
    TellsFates (TypeIndex.ofFiles files) schema.failures schema.services := by
  have hfates := tellsFates_walkFiles (keepsNames_ofFiles files) targets
  obtain ⟨found, walk, services, hsame, hwalk, -, hservices⟩ := resolve_cases h
  obtain rfl : found = targets := Except.ok.inj (hsame.symm.trans htargets)
  obtain ⟨_, hwalkEq, -, hfailures⟩ := resolve_of_requestedFiles htargets h
  rw [hwalk] at hfates hwalkEq
  subst hwalkEq
  have hmethods : methodsOfServices schema.services = methodsOfServices services := by
    rw [hservices, methodsOfServices, List.flatMap_map]
    rfl
  intro earlier package method hprefix
  rw [hmethods] at hprefix
  rw [hfailures]
  exact (hfates earlier package method hprefix).mono (List.subset_append_left _ _)

/--
No method is lost. The services of a schema have all methods of the requested files, in the order
of declaration. A method whose name stands for an operation refers to an entity, and it is served,
or the entity is among the failures, or the method is passed over, since one before it in the order
of the walk serves the same operation.
-/
theorem resolve_accountsForMethods (h : resolve files requested = .ok schema)
    (htargets : requestedFiles files requested = .ok targets)
    (hnames : ∀ file ∈ targets, ∀ service ∈ file.services,
      (service.methods.map (·.name)).Nodup) :
    schema.services.map Service.declared = declaredServices (TypeIndex.ofFiles files) targets ∧
      ∀ before service after, schema.services = before ++ service :: after →
        ∀ above method below, service.methods = above ++ method :: below →
          ∀ kind, StandsFor method.name kind →
            ∃ entity,
              (method.binding (TypeIndex.ofFiles files) service.package).referred? =
                some entity ∧
              (schema.Serves service kind entity method ∨
                entity ∈ schema.failures.map (·.entity) ∨
                service.PassesOver (TypeIndex.ofFiles files)
                  (methodsOfServices before ++ above.map (service.package, ·)) kind entity
                  method) := by
  have hreflects := resolve_reflects h htargets
  refine ⟨hreflects.declared, ?_⟩
  intro before service after hservices above method below hmethods kind hstands
  have hservice : service ∈ schema.services := by simp [hservices]
  have hmethod : method ∈ service.methods := by simp [hmethods]
  have hunique := nodup_method_names hreflects hnames hservice
  have hprefix : methodsOfServices before ++ above.map (service.package, ·) ++
      [(service.package, method)] <+: methodsOfServices schema.services := by
    simp [hservices, hmethods, methodsOfServices]
  have hbound : ∃ entity,
      method.binding (TypeIndex.ofFiles files) service.package = .bound kind entity ∨
        method.binding (TypeIndex.ofFiles files) service.package = .undefined entity :=
    StandsFor.bindMethod_cases method.toDescriptor hstands _ _
  cases resolve_tellsFates h htargets _ _ _ hprefix with
  | unbound hbinding =>
    obtain ⟨entity, hbound | hbound⟩ := hbound <;> cases hbinding.symm.trans hbound
  | undefined hbinding hreported =>
    exact ⟨_, by rw [hbinding, Binding.referred?], .inr (.inl hreported)⟩
  | marked hfills =>
    obtain ⟨entity, hbound | hbound⟩ := hbound <;> cases hfills.2.symm.trans hbound
    refine ⟨_, by rw [hfills.2, Binding.referred?], ?_⟩
    exact (serves_or_mem_failures h htargets hservice hunique hmethod hfills).imp_right .inl
  | late hbinding hkind hfirst hfills =>
    obtain ⟨entity, hbound | hbound⟩ := hbound <;> cases hbinding.symm.trans hbound
    have hunbound := lookup_eq_none hreflects hservice hunique hmethod hkind
    exact ⟨_, by rw [hbinding, Binding.referred?],
      .inr (.inr ⟨hkind, hunbound, _, hfirst, hfills⟩)⟩

end Schemas

/-- A file whose two services both have a method that gets an order. -/
def frontFile : File where
  name := "front.proto"
  package := "shop"
  messages :=
    [.mk "Item" [⟨"tags", .repeated, .string, "", false, false⟩] [] [],
      .mk "Order" [⟨"id", .optional, .string, "", false, false⟩] [] [],
      .mk "LookupRequest" [⟨"id", .optional, .string, "", false, false⟩] [] []]
  enums := []
  services :=
    [⟨"Front",
      [⟨"GetItem", ".shop.LookupRequest", ".shop.Item", false, false⟩,
        ⟨"GetGhost", ".shop.LookupRequest", ".shop.Item", false, false⟩,
        ⟨"GetOrder", ".shop.LookupRequest", ".shop.Order", false, false⟩]⟩,
    ⟨"Back", [⟨"GetOrder", ".shop.LookupRequest", ".shop.Order", false, false⟩]⟩]

/-- Items do not resolve, ghosts are undefined, and the second method for orders is passed over. -/
theorem passesOver_second_getOrder :
    ∃ schema front back method,
      resolve [frontFile] ["front.proto"] = .ok schema ∧
      schema.failures.map (·.entity) = ["Ghost", "Item"] ∧
      schema.services = [front, back] ∧ back.methods = [method] ∧
      StandsFor method.name .get ∧
      back.PassesOver (TypeIndex.ofFiles [frontFile]) (methodsOfServices [front]) .get "Order"
        method := by
  have hread : (resolve [frontFile] ["front.proto"]).toOption.map (fun schema ↦
      schema.services.map fun service ↦
        (service.package, service.methods.map fun method ↦ (method.name, method.kind))) =
      some [("shop", [("GetItem", some .get), ("GetGhost", none), ("GetOrder", some .get)]),
        ("shop", [("GetOrder", none)])] := by
    decide +kernel
  have hreadFailures : (resolve [frontFile] ["front.proto"]).toOption.map
      (fun schema ↦ schema.failures.map (·.entity)) = some ["Ghost", "Item"] := by
    decide +kernel
  obtain ⟨schema, hschema, hservices⟩ := exists_resolve hread
  have hfailures : schema.failures.map (·.entity) = ["Ghost", "Item"] := by
    rw [hschema] at hreadFailures
    exact Option.some.inj hreadFailures
  obtain ⟨front, rest, hfront, -, hrest⟩ := List.map_eq_cons_iff.mp hservices
  obtain ⟨back, others, rfl, hback, hothers⟩ := List.map_eq_cons_iff.mp hrest
  obtain rfl := List.map_eq_nil_iff.mp hothers
  obtain ⟨hpackage, hmethods⟩ := Prod.mk.inj hback
  obtain ⟨method, more, hmethod, hnames, hmore⟩ := List.map_eq_cons_iff.mp hmethods
  obtain rfl := List.map_eq_nil_iff.mp hmore
  obtain ⟨hname, hkind⟩ := Prod.mk.inj hnames
  have hword : MethodKind.ofMethodName? "GetOrder" = some (.get, "Order") := by decide +kernel
  have hstands : StandsFor method.name .get := ⟨"Order", hname ▸ hword, fun _ ↦ by decide +kernel⟩
  have hbinding : method.binding (TypeIndex.ofFiles [frontFile]) back.package =
      .bound .get "Order" := by
    have hdeclares : (TypeIndex.ofFiles [frontFile]).declares "shop" "Order" = true := by
      decide +kernel
    have hplain : stripQualifier "Order" = "Order" := by decide +kernel
    rw [Method.binding, bindMethod, Method.toDescriptor, hname, hword, hpackage]
    simp only [hplain, hdeclares, ne_eq, not_true, if_false, if_true]
  obtain ⟨-, haccounts⟩ := resolve_accountsForMethods hschema
    (show requestedFiles [frontFile] ["front.proto"] = .ok [frontFile] by rfl)
    (by decide +kernel)
  obtain ⟨entity, hentity, hserves | hfailed | hpasses⟩ :=
    haccounts [front] back [] hfront [] method [] hmethod .get hstands
  · cases hkind.symm.trans hserves.kind_eq
  · rw [hbinding] at hentity
    cases hentity
    rw [hfailures] at hfailed
    exact absurd hfailed (by decide)
  · rw [hbinding] at hentity
    cases hentity
    refine ⟨schema, front, back, method, hschema, hfailures, hfront, hmethod, hstands, ?_⟩
    rwa [List.map_nil, List.append_nil] at hpasses

end ProtoCrud.Schema
