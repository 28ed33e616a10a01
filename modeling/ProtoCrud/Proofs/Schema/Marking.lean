import Mathlib.Data.List.Pairwise
import ProtoCrud.Proofs.Schema.Walk

/-!
# Marked methods of a resolved schema

A resolved schema keeps the services as they are declared, with a mark on each method that has taken
the place of an operation. No two marked methods of a package are alike. The operations of an entity
are made from marked methods that are bound to it, and from all of them; the bindings of a service
lead from a marked method to its entity unless the entity could not be resolved.
-/

namespace ProtoCrud.Schema

open Descriptor (File)

def Entity.Performs (entity : Entity) (kind : MethodKind) (method : Method) : Prop :=
  ∃ operation, entity.methods.at? kind = some operation ∧ operation.method = method

theorem Entity.Performs.unique {entity : Entity} {kind : MethodKind} {method other : Method}
    (h : entity.Performs kind method) (hother : entity.Performs kind other) :
    method = other := by
  obtain ⟨operation, hoperation, rfl⟩ := h
  obtain ⟨same, hsame, rfl⟩ := hother
  rw [Option.some.inj (hoperation.symm.trans hsame)]

theorem isSome_crudMethods_at? {index : TypeIndex} {entity entityName : String}
    {stored : List Field} {methods : List (MethodKind × Method)} {operations : Slots CrudMethod}
    (h : crudMethods index entity entityName stored methods = .ok operations)
    {kind : MethodKind} {method : Method} (hmem : (kind, method) ∈ methods) :
    (operations.at? kind).isSome = true := by
  induction methods generalizing operations with
  | nil => cases hmem
  | cons first rest ih =>
    obtain ⟨firstKind, firstMethod⟩ := first
    rw [crudMethods] at h
    obtain ⟨firstOperation, -, h⟩ := bind_eq_ok.mp h
    obtain ⟨others, hothers, h⟩ := bind_eq_ok.mp h
    cases h
    rw [Slots.at?_fill]
    split
    · rfl
    · next hne =>
      rcases List.mem_cons.mp hmem with heq | hmem
      · exact absurd (Prod.mk.inj heq).1 hne
      · exact ih hothers hmem

/-- An entity performs exactly the methods that it was resolved with. -/
theorem performs_iff_at? {index : TypeIndex} {package name : String} {methods : Slots Method}
    {entity : Entity} (h : resolveEntity index package name methods = .ok entity)
    {kind : MethodKind} {method : Method} :
    entity.Performs kind method ↔ methods.at? kind = some method := by
  obtain ⟨_, fields, operations, -, -, -, hoperations, rfl⟩ := resolveEntity_cases h
  have hmade {operation : CrudMethod} (hoperation : operations.at? kind = some operation) :
      methods.at? kind = some operation.method := by
    obtain ⟨made, hmem, hchecked⟩ := crudMethods_at? hoperations hoperation
    obtain ⟨_, -, -, rfl⟩ := crudMethod_cases hchecked
    exact Slots.mem_toList.mp hmem
  constructor
  · rintro ⟨operation, hoperation, rfl⟩
    exact hmade hoperation
  · intro hmethod
    obtain ⟨operation, hoperation⟩ := Option.isSome_iff_exists.mp
      (isSome_crudMethods_at? hoperations (Slots.mem_toList.mpr hmethod))
    exact ⟨operation, hoperation, Option.some.inj ((hmade hoperation).symm.trans hmethod)⟩

section Marks

variable {index : TypeIndex} {walk : Walk} {services : List Service} {package entity : String}
  {kind : MethodKind} {method : Method}

theorem Method.Fills.unique {otherEntity : String} {otherKind : MethodKind}
    (h : method.Fills index package entity kind)
    (hother : method.Fills index package otherEntity otherKind) :
    entity = otherEntity ∧ kind = otherKind := by
  have hbound := Binding.bound.inj (h.2.symm.trans hother.2)
  exact ⟨hbound.2, hbound.1⟩

/-- The methods that have taken places are the marked ones, each in the place it is bound to. -/
theorem Walked.mem_places_iff (h : Walked index walk services) :
    ⟨package, entity, kind, method⟩ ∈ walk.places ↔
      (package, method) ∈ services.flatMap Service.marked ∧
        method.Fills index package entity kind := by
  rw [← h.marked, List.mem_map]
  constructor
  · exact fun hplace ↦ ⟨⟨_, hplace, rfl⟩, h.fills _ hplace⟩
  · rintro ⟨⟨place, hplace, heq⟩, hfills⟩
    obtain ⟨rfl, rfl⟩ := Prod.mk.inj heq
    obtain ⟨rfl, rfl⟩ := hfills.unique (h.fills place hplace)
    exact hplace

/-- No two marked methods of a package are alike. -/
theorem Walked.nodup_marked (h : Walked index walk services) :
    (services.flatMap Service.marked).Nodup := by
  rw [← h.marked, List.nodup_map_iff_inj_on h.nodup_keys.of_map]
  intro place hplace other hother heq
  obtain ⟨hpackage, hmethod⟩ := Prod.mk.inj heq
  have hfills := h.fills place hplace
  rw [hpackage, hmethod] at hfills
  obtain ⟨hentity, hkind⟩ := hfills.unique (h.fills other hother)
  obtain ⟨_, _, _, _⟩ := place
  obtain ⟨_, _, _, _⟩ := other
  simp_all only

theorem Service.mem_marked {service : Service} (hmethod : method ∈ service.methods)
    (hkind : method.kind.isSome = true) : (service.package, method) ∈ service.marked :=
  List.mem_map_of_mem (List.mem_filter.mpr ⟨hmethod, hkind⟩)

/-- A method that stands for an operation is among the marked ones. -/
theorem Method.Fills.mem_marked {service : Service} {entity : String} {kind : MethodKind}
    (hfills : method.Fills index service.package entity kind) (hservice : service ∈ services)
    (hmethod : method ∈ service.methods) :
    (service.package, method) ∈ services.flatMap Service.marked :=
  List.mem_flatMap.mpr ⟨service, hservice, Service.mem_marked hmethod (by rw [hfills.1]; rfl)⟩

/-- Two services with a marked method in common are the same. -/
theorem eq_of_mem_marked (hnodup : (services.flatMap Service.marked).Nodup)
    {service other : Service} (hservice : service ∈ services) (hother : other ∈ services)
    (hmethod : (package, method) ∈ service.marked) (hsame : (package, method) ∈ other.marked) :
    service = other := by
  have hsymm : Std.Symm (Function.onFun List.Disjoint Service.marked) :=
    ⟨fun _ _ hdisjoint _ hleft hright ↦ hdisjoint hright hleft⟩
  have hdisjoint := (List.nodup_flatMap.mp hnodup).2
  by_contra hne
  exact hdisjoint.forall hservice hother hne hmethod hsame

/-- In a service without two methods of one name a binding of a name is one of its method. -/
theorem Service.BindsMarked.exists_fills {service : Service} (h : service.BindsMarked index)
    (hnames : (service.methods.map (·.name)).Nodup) (hmethod : method ∈ service.methods)
    (hmem : (method.name, entity) ∈ service.bindings) :
    ∃ kind, method.Fills index service.package entity kind := by
  obtain ⟨other, hother, kind, hname, hfills⟩ := h.exists_method _ hmem
  obtain rfl := List.inj_on_of_nodup_map hnames hother hmethod hname
  exact ⟨kind, hfills⟩

/-- The bindings that are kept lead from the marked methods to their entities. -/
theorem Service.BindsMarked.lookup_retainBindings {service : Service}
    (h : service.BindsMarked index) (names : List String)
    (hnames : (service.methods.map (·.name)).Nodup) (hmethod : method ∈ service.methods) :
    (service.retainBindings names).bindings.lookup method.name = some entity ↔
      entity ∈ names ∧ ∃ kind, method.Fills index service.package entity kind := by
  have hkept {other : String} :
      (method.name, other) ∈ (service.retainBindings names).bindings ↔
        (method.name, other) ∈ service.bindings ∧ other ∈ names := by
    simp [Service.retainBindings]
  constructor
  · intro hlookup
    obtain ⟨hmem, hentity⟩ := hkept.mp (mem_of_lookup hlookup)
    exact ⟨hentity, h.exists_fills hnames hmethod hmem⟩
  · rintro ⟨hentity, kind, hfills⟩
    have hunique {other : String} (hmem : (method.name, other) ∈ service.bindings) :
        other = entity := by
      obtain ⟨_, hother⟩ := h.exists_fills hnames hmethod hmem
      exact (hother.unique hfills).1
    have hmarked : method.kind.isSome = true := by
      rw [hfills.1]
      rfl
    obtain ⟨other, hother⟩ := exists_lookup (h.mem_bindings method hmethod hmarked)
    obtain rfl := hunique (mem_of_lookup hother)
    have hmem := hkept.mpr ⟨mem_of_lookup hother, hentity⟩
    obtain ⟨last, hlast⟩ := exists_lookup (List.mem_map_of_mem hmem)
    rwa [hunique (hkept.mp (mem_of_lookup hlast)).1] at hlast

end Marks

/-- What a resolved schema says about the methods that the requested files declare. -/
structure Resolution.Reflects (schema : Resolution) (index : TypeIndex) (targets : List File) :
    Prop where
  declared : schema.services.map Service.declared = declaredServices index targets
  nodup_marked : (schema.services.flatMap Service.marked).Nodup
  performs_iff : ∀ entity ∈ schema.entities, ∀ kind method,
    entity.Performs kind method ↔
      (entity.package, method) ∈ schema.services.flatMap Service.marked ∧
        method.Fills index entity.package entity.name kind
  lookup_iff : ∀ service ∈ schema.services, (service.methods.map (·.name)).Nodup →
    ∀ method ∈ service.methods, ∀ name,
      service.bindings.lookup method.name = some name ↔
        name ∈ schema.entities.map (·.name) ∧
          ∃ kind, method.Fills index service.package name kind
  marks : ∀ package entity kind service,
    schema.services.find? (·.declares index package entity kind) = some service →
      ∃ method ∈ service.methods, method.Fills index package entity kind

/-- The schema of some files reflects what the requested ones among them declare. -/
theorem resolve_reflects {files targets : List File} {requested : List String}
    {schema : Resolution} (h : resolve files requested = .ok schema)
    (htargets : requestedFiles files requested = .ok targets) :
    schema.Reflects (TypeIndex.ofFiles files) targets := by
  obtain ⟨found, walk, services, hfound, hwalk, hentities, hservices⟩ := resolve_cases h
  obtain rfl : found = targets := Except.ok.inj (hfound.symm.trans htargets)
  have hwalked := walked_walkFiles (keepsNames_ofFiles files) found
  have hdeclared := declared_walkFiles (TypeIndex.ofFiles files) {} found
  rw [hwalk] at hwalked hdeclared
  have hmarked : schema.services.flatMap Service.marked = services.flatMap Service.marked := by
    rw [hservices, List.flatMap_map]
    rfl
  refine ⟨?_, ?_, ?_, ?_, ?_⟩
  · rw [hservices, List.map_map, ← hdeclared]
    rfl
  · rw [hmarked]
    exact hwalked.nodup_marked
  · intro entity hentity kind method
    rw [hentities] at hentity
    obtain ⟨package, name, -, hresolve⟩ := exists_of_mem_resolveEntities hentity
    obtain ⟨rfl, rfl⟩ := Prod.mk.inj (resolveEntity_key hresolve)
    rw [performs_iff_at? hresolve, at?_methodsOf hwalked.nodup_keys, hwalked.mem_places_iff,
      hmarked]
  · intro service hservice hnames method hmethod name
    rw [hservices] at hservice
    obtain ⟨whole, hwhole, rfl⟩ := List.mem_map.mp hservice
    exact (hwalked.bindsMarked whole hwhole).lookup_retainBindings _ hnames hmethod
  · intro package entity kind service hfind
    rw [hservices, List.find?_map, Option.map_eq_some_iff] at hfind
    obtain ⟨whole, hwhole, rfl⟩ := hfind
    exact hwalked.marks package entity kind whole hwhole

end ProtoCrud.Schema
