import Mathlib.Data.List.Induction
import Mathlib.Data.List.Nodup
import ProtoCrud.Proofs.Schema.Declared
import ProtoCrud.Proofs.Schema.DeclaredTypes

/-!
# What the walk finds

The walk goes through files, services and methods, but the places that it takes depend on the
methods in their order alone: it is one fold over the declared methods, each in the package of its
file. What a single method can do is inverted once. Every fact about a whole walk follows from that
by the induction over its steps: each place is taken once, by a method that is bound to it, and the
methods of services that are marked with an operation are exactly those that have taken a place.
-/

namespace ProtoCrud.Schema

open Descriptor (File)

/-! ## One method -/

def Service.withMethod (service : Service) (method : Method) : Service :=
  { service with methods := service.methods ++ [method] }

def Method.marked (index : TypeIndex) (descriptor : Descriptor.Method) (kind : MethodKind) :
    Method :=
  { Method.ofDescriptor index descriptor with kind := some kind }

/--
A method joins its service as it is declared, and takes no place, or it takes the place that it is
bound to. In the first case the place that it is bound to, if any, is taken already.
-/
theorem walkMethod_cases (index : TypeIndex) (walk : Walk) (service : Service)
    (descriptor : Descriptor.Method) :
    (∃ failures,
        walkMethod index walk service descriptor =
          ({ walk with failures }, service.withMethod (Method.ofDescriptor index descriptor)) ∧
        ∀ kind entity, bindMethod index service.package descriptor = .bound kind entity →
          failures = walk.failures ∧
            walk.places.any (·.isFor service.package entity kind) = true) ∨
      ∃ kind entity,
        bindMethod index service.package descriptor = .bound kind entity ∧
        walk.places.any (·.isFor service.package entity kind) = false ∧
        walkMethod index walk service descriptor =
          ({ walk with places :=
              walk.places ++ [⟨service.package, entity, kind, .marked index descriptor kind⟩] },
            { service.withMethod (.marked index descriptor kind) with
              bindings := bindName service.bindings descriptor.name entity }) := by
  rw [walkMethod]
  dsimp only
  split
  · next hbound => exact .inl ⟨walk.failures, rfl, by simp [hbound]⟩
  · next hbound => exact .inl ⟨_, rfl, by simp [hbound]⟩
  · next kind entity hbound =>
    split
    · next htaken =>
      refine .inl ⟨walk.failures, rfl, fun other name hother ↦ ?_⟩
      cases hbound.symm.trans hother
      exact ⟨rfl, htaken⟩
    · next hfree => exact .inr ⟨kind, entity, hbound, Bool.eq_false_iff.mpr hfree, rfl⟩

/-! ## The order of the walk -/

def declaredMethods (files : List File) : List (String × Descriptor.Method) :=
  files.flatMap fun file ↦
    file.services.flatMap fun service ↦ service.methods.map (file.package, ·)

def Walk.advance (index : TypeIndex) (walk : Walk) (declared : String × Descriptor.Method) :
    Walk :=
  (walkMethod index walk ⟨"", declared.1, [], []⟩ declared.2).1

section Order

variable {index : TypeIndex}

theorem walkMethod_fst (walk : Walk) (service : Service) (descriptor : Descriptor.Method) :
    (walkMethod index walk service descriptor).1 =
      walk.advance index (service.package, descriptor) := by
  simp only [Walk.advance, walkMethod]
  split
  · rfl
  · rfl
  · split <;> rfl

theorem package_walkMethod (walk : Walk) (service : Service) (descriptor : Descriptor.Method) :
    (walkMethod index walk service descriptor).2.package = service.package := by
  rcases walkMethod_cases index walk service descriptor with
    ⟨_, heq, -⟩ | ⟨_, _, -, -, heq⟩ <;> rw [heq] <;> rfl

theorem walkMethods_fst (walk : Walk) (service : Service)
    (descriptors : List Descriptor.Method) :
    (walkMethods index walk service descriptors).1 =
      (descriptors.map (service.package, ·)).foldl (Walk.advance index) walk := by
  induction descriptors generalizing walk service with
  | nil => rfl
  | cons descriptor rest ih =>
    rw [walkMethods, List.map_cons, List.foldl_cons, ← walkMethod_fst,
      ← package_walkMethod walk service descriptor]
    exact ih ..

theorem walkServices_fst (package : String) (walk : Walk)
    (descriptors : List Descriptor.Service) :
    (walkServices index package walk descriptors).1 =
      (descriptors.flatMap fun service ↦ service.methods.map (package, ·)).foldl
        (Walk.advance index) walk := by
  induction descriptors generalizing walk with
  | nil => rfl
  | cons descriptor rest ih =>
    rw [List.flatMap_cons, List.foldl_append, ← walkMethods_fst walk ⟨_, package, [], []⟩]
    exact ih _

/-- The walk over files is one fold over their methods. -/
theorem walkFiles_fst (walk : Walk) (files : List File) :
    (walkFiles index walk files).1 =
      (declaredMethods files).foldl (Walk.advance index) walk := by
  induction files generalizing walk with
  | nil => rfl
  | cons file rest ih =>
    rw [declaredMethods, List.flatMap_cons, List.foldl_append, ← walkServices_fst]
    exact ih _

/--
What the start of a service and the walk over one method preserve, the method being one of the
service that was started last, holds behind a walk over files.
-/
theorem walkFiles_induction (index : TypeIndex) {P : Walk → List Service → Prop}
    (hstart : ∀ walk done name package, P walk done → P walk (done ++ [⟨name, package, [], []⟩]))
    (hstep : ∀ walk done service descriptor, P walk (done ++ [service]) →
      P (walkMethod index walk service descriptor).1
        (done ++ [(walkMethod index walk service descriptor).2]))
    {walk : Walk} {done : List Service} (h : P walk done) (files : List File) :
    P (walkFiles index walk files).1 (done ++ (walkFiles index walk files).2) := by
  have hmethods (done : List Service) (descriptors : List Descriptor.Method) :
      ∀ walk service, P walk (done ++ [service]) →
        P (walkMethods index walk service descriptors).1
          (done ++ [(walkMethods index walk service descriptors).2]) := by
    induction descriptors with
    | nil => exact fun _ _ h ↦ h
    | cons descriptor rest ih => exact fun walk service h ↦ ih _ _ (hstep walk done service _ h)
  have hservices (package : String) (descriptors : List Descriptor.Service) :
      ∀ walk done, P walk done →
        P (walkServices index package walk descriptors).1
          (done ++ (walkServices index package walk descriptors).2) := by
    induction descriptors with
    | nil => exact fun _ _ h ↦ by rwa [walkServices, List.append_nil]
    | cons descriptor rest ih =>
      intro walk done h
      have hservice := hmethods done descriptor.methods walk _
        (hstart walk done descriptor.name package h)
      have hrest := ih _ _ hservice
      rwa [List.append_assoc] at hrest
  induction files generalizing walk done with
  | nil => rwa [walkFiles, List.append_nil]
  | cons file rest ih =>
    have hrest := ih (hservices file.package file.services walk done h)
    rwa [List.append_assoc] at hrest

/-! ## Services as they are declared -/

/-- A service without what the walk has told about its methods. -/
def Service.declared (service : Service) : Service :=
  { service with
    methods := service.methods.map fun method ↦ { method with kind := none }
    bindings := [] }

/-- The services of files as they are declared, in the order of the walk. -/
def declaredServices (index : TypeIndex) (files : List File) : List Service :=
  files.flatMap fun file ↦ file.services.map fun service ↦
    ⟨service.name, file.package, service.methods.map (Method.ofDescriptor index), []⟩

theorem declared_walkMethod (walk : Walk) (service : Service) (descriptor : Descriptor.Method) :
    (walkMethod index walk service descriptor).2.declared =
      service.declared.withMethod (Method.ofDescriptor index descriptor) := by
  rcases walkMethod_cases index walk service descriptor with
    ⟨_, heq, -⟩ | ⟨_, _, -, -, heq⟩ <;>
      simp [heq, Service.declared, Service.withMethod, Method.marked, Method.ofDescriptor]

theorem declared_walkMethods (walk : Walk) (service : Service)
    (descriptors : List Descriptor.Method) :
    (walkMethods index walk service descriptors).2.declared =
      { service.declared with
        methods := service.declared.methods ++ descriptors.map (Method.ofDescriptor index) } := by
  induction descriptors generalizing walk service with
  | nil => simp [walkMethods]
  | cons descriptor rest ih =>
    rw [walkMethods, List.map_cons, ih, declared_walkMethod, Service.withMethod,
      List.append_assoc, List.singleton_append]

theorem declared_walkServices (package : String) (walk : Walk)
    (descriptors : List Descriptor.Service) :
    (walkServices index package walk descriptors).2.map Service.declared =
      descriptors.map fun service ↦
        ⟨service.name, package, service.methods.map (Method.ofDescriptor index), []⟩ := by
  induction descriptors generalizing walk with
  | nil => rfl
  | cons descriptor rest ih =>
    rw [walkServices, List.map_cons, List.map_cons, ih, declared_walkMethods]
    rfl

/-- The walk keeps every service with its methods, in the order of declaration. -/
theorem declared_walkFiles (index : TypeIndex) (walk : Walk) (files : List File) :
    (walkFiles index walk files).2.map Service.declared = declaredServices index files := by
  induction files generalizing walk with
  | nil => rfl
  | cons file rest ih =>
    rw [walkFiles, List.map_append, declared_walkServices, ih]
    rfl

theorem hasStreaming_declared (service : Service) :
    service.declared.hasStreaming = service.hasStreaming := by
  rw [Service.hasStreaming, Service.declared, List.any_map]
  rfl

theorem names_declared (service : Service) :
    service.declared.methods.map (·.name) = service.methods.map (·.name) := by
  rw [Service.declared, List.map_map]
  rfl

end Order

/-! ## What a method is bound to -/

def Method.toDescriptor (method : Method) : Descriptor.Method :=
  { name := method.name
    input := method.input.fullName
    output := method.output.fullName
    clientStreaming := method.clientStreaming
    serverStreaming := method.serverStreaming }

def Method.binding (index : TypeIndex) (package : String) (method : Method) : Binding :=
  bindMethod index package method.toDescriptor

/-- Whether every type has the full name under which it is looked up. -/
def TypeIndex.KeepsNames (index : TypeIndex) : Prop :=
  ∀ fullName, (index.typeRef fullName).fullName = fullName

theorem keepsNames_ofFiles (files : List File) : (TypeIndex.ofFiles files).KeepsNames := by
  intro fullName
  rw [TypeIndex.typeRef]
  split
  · next hentry =>
    obtain ⟨place, -, hname, rfl⟩ := exists_place_of_entry hentry
    exact hname
  · rw [TypeIndex.guessedType]
    split <;> rfl

theorem toDescriptor_ofDescriptor {index : TypeIndex} (hindex : index.KeepsNames)
    (descriptor : Descriptor.Method) (kind : Option MethodKind) :
    Method.toDescriptor { Method.ofDescriptor index descriptor with kind } = descriptor := by
  simp only [Method.toDescriptor, Method.ofDescriptor, hindex _]

/-- Whether a method is marked with an operation on an entity, and bound to it. -/
def Method.Fills (index : TypeIndex) (package entity : String) (kind : MethodKind)
    (method : Method) : Prop :=
  method.kind = some kind ∧ method.binding index package = .bound kind entity

theorem fills_marked {index : TypeIndex} (hindex : index.KeepsNames) {package entity : String}
    {kind : MethodKind} {descriptor : Descriptor.Method}
    (h : bindMethod index package descriptor = .bound kind entity) :
    (Method.marked index descriptor kind).Fills index package entity kind := by
  refine ⟨rfl, ?_⟩
  rw [Method.binding, Method.marked, toDescriptor_ofDescriptor hindex, h]

/-! ## Places -/

/-- What a place is the place of. -/
def Place.key (place : Place) : String × String × MethodKind :=
  (place.package, place.entity, place.kind)

theorem Place.isFor_iff {place : Place} {package entity : String} {kind : MethodKind} :
    place.isFor package entity kind = true ↔ place.key = (package, entity, kind) := by
  simp [isFor, key, and_assoc]

theorem any_isFor_iff {places : List Place} {package entity : String} {kind : MethodKind} :
    places.any (·.isFor package entity kind) = true ↔
      (package, entity, kind) ∈ places.map Place.key := by
  simp only [List.any_eq_true, Place.isFor_iff, List.mem_map]

theorem methodsOf_append_singleton (places : List Place) (place : Place)
    (failures : List Failure) (package entity : String) :
    Walk.methodsOf ⟨places ++ [place], failures⟩ package entity =
      if place.package = package ∧ place.entity = entity then
        (Walk.methodsOf ⟨places, failures⟩ package entity).fill place.kind place.method
      else Walk.methodsOf ⟨places, failures⟩ package entity := by
  simp only [Walk.methodsOf, List.foldl_append, List.foldl_cons, List.foldl_nil]

/-- If each place is taken once, the method of an operation is the one that took its place. -/
theorem at?_methodsOf {walk : Walk} (hkeys : (walk.places.map Place.key).Nodup)
    {package entity : String} {kind : MethodKind} {method : Method} :
    (walk.methodsOf package entity).at? kind = some method ↔
      ⟨package, entity, kind, method⟩ ∈ walk.places := by
  obtain ⟨places, failures⟩ := walk
  dsimp only at hkeys ⊢
  induction places using List.reverseRecOn with
  | nil =>
    refine iff_of_false ?_ List.not_mem_nil
    cases kind <;> exact nofun
  | append_singleton places place ih =>
    rw [List.map_append, List.nodup_append] at hkeys
    obtain ⟨hnodup, -, hfresh⟩ := hkeys
    have hlast (h : place.key = (package, entity, kind)) :
        ⟨package, entity, kind, method⟩ ∉ places := by
      intro hmem
      exact hfresh _ (List.mem_map_of_mem hmem) _ List.mem_cons_self h.symm
    rw [methodsOf_append_singleton, List.mem_append, List.mem_singleton]
    obtain ⟨placePackage, placeEntity, placeKind, placeMethod⟩ := place
    dsimp only [Place.key] at hlast ⊢
    split
    · next hown =>
      obtain ⟨rfl, rfl⟩ := hown
      rw [Slots.at?_fill]
      split
      · next hkind =>
        subst hkind
        simp [hlast rfl, eq_comm]
      · next hkind =>
        rw [ih hnodup]
        simp [hkind]
    · next hother =>
      rw [ih hnodup]
      simp only [Place.mk.injEq]
      exact ⟨.inl, fun h ↦ h.resolve_right fun hsame ↦ hother ⟨hsame.1.symm, hsame.2.1.symm⟩⟩

/-! ## Bindings -/

theorem mem_keys_bindName {bindings : List (String × String)} {method entity name : String} :
    name ∈ (bindName bindings method entity).map Prod.fst ↔
      name = method ∨ name ∈ bindings.map Prod.fst := by
  rw [bindName]
  split
  · next hbound =>
    have hkeys : (bindings.map fun binding ↦
        if binding.1 = method then (method, entity) else binding).map Prod.fst =
          bindings.map Prod.fst := by
      rw [List.map_map]
      refine List.map_congr_left fun binding _ ↦ ?_
      dsimp only [Function.comp_apply]
      split
      · next heq => exact heq.symm
      · rfl
    obtain ⟨other, hother⟩ := Option.isSome_iff_exists.mp hbound
    have hmethod : method ∈ bindings.map Prod.fst := List.mem_map_of_mem (mem_of_lookup hother)
    rw [hkeys]
    exact ⟨.inr, fun h ↦ h.elim (fun heq ↦ heq ▸ hmethod) id⟩
  · simp [or_comm]

theorem mem_bindName {bindings : List (String × String)} {method entity : String}
    {binding : String × String} (h : binding ∈ bindName bindings method entity) :
    binding ∈ bindings ∨ binding = (method, entity) := by
  rw [bindName] at h
  split at h
  · obtain ⟨other, hother, heq⟩ := List.mem_map.mp h
    split at heq
    · exact .inr heq.symm
    · exact .inl (heq ▸ hother)
  · simpa using h

/-- What the bindings of a service say: they list its marked methods with their entities. -/
structure Service.BindsMarked (index : TypeIndex) (service : Service) : Prop where
  mem_bindings : ∀ method ∈ service.methods, method.kind.isSome = true →
    method.name ∈ service.bindings.map Prod.fst
  exists_method : ∀ binding ∈ service.bindings, ∃ method ∈ service.methods, ∃ kind,
    method.name = binding.1 ∧ method.Fills index service.package binding.2 kind

theorem Service.BindsMarked.walkMethod {index : TypeIndex} (hindex : index.KeepsNames)
    {service : Service} (h : service.BindsMarked index) (walk : Walk)
    (descriptor : Descriptor.Method) :
    (walkMethod index walk service descriptor).2.BindsMarked index := by
  rcases walkMethod_cases index walk service descriptor with
    ⟨_, heq, -⟩ | ⟨kind, entity, hbound, -, heq⟩ <;> rw [heq]
  · refine ⟨fun method hmethod hmarked ↦ ?_, fun binding hbinding ↦ ?_⟩
    · rcases List.mem_append.mp hmethod with hmethod | hmethod
      · exact h.mem_bindings method hmethod hmarked
      · rw [List.mem_singleton.mp hmethod] at hmarked
        exact absurd hmarked Bool.false_ne_true
    · obtain ⟨method, hmethod, hfills⟩ := h.exists_method binding hbinding
      exact ⟨method, List.mem_append_left _ hmethod, hfills⟩
  · refine ⟨fun method hmethod hmarked ↦ mem_keys_bindName.mpr ?_, fun binding hbinding ↦ ?_⟩
    · rcases List.mem_append.mp hmethod with hmethod | hmethod
      · exact .inr (h.mem_bindings method hmethod hmarked)
      · rw [List.mem_singleton.mp hmethod]
        exact .inl rfl
    · rcases mem_bindName hbinding with hbinding | rfl
      · obtain ⟨method, hmethod, hfills⟩ := h.exists_method binding hbinding
        exact ⟨method, List.mem_append_left _ hmethod, hfills⟩
      · exact ⟨_, List.mem_append_right _ (List.mem_singleton_self _), kind, rfl,
          fills_marked hindex hbound⟩

/-! ## The invariant of the walk -/

def Service.marked (service : Service) : List (String × Method) :=
  (service.methods.filter (·.kind.isSome)).map (service.package, ·)

def Service.declares (index : TypeIndex) (package entity : String) (kind : MethodKind)
    (service : Service) : Bool :=
  service.package = package &&
    service.methods.any fun method ↦ method.binding index package = .bound kind entity

theorem Service.declares_iff {index : TypeIndex} {package entity : String} {kind : MethodKind}
    {service : Service} :
    service.declares index package entity kind = true ↔
      service.package = package ∧
        ∃ method ∈ service.methods, method.binding index package = .bound kind entity := by
  simp [declares]

/-- The first service among the declared ones is the declaration of the first one. -/
theorem find?_declared {index : TypeIndex} (services : List Service) (package name : String)
    (kind : MethodKind) :
    (services.map Service.declared).find? (·.declares index package name kind) =
      (services.find? (·.declares index package name kind)).map Service.declared := by
  rw [List.find?_map]
  congr 2
  ext service
  simp only [Function.comp_apply, Service.declares, Service.declared, List.any_map]
  rfl

/--
What a walk and the services behind it tell together: a place is taken once, by a method that is
bound to it; the methods that have taken places are the marked ones of the services, in order; the
bindings list them; and the first service that declares a method for an operation marks one.
-/
structure Walked (index : TypeIndex) (walk : Walk) (services : List Service) : Prop where
  nodup_keys : (walk.places.map Place.key).Nodup
  fills : ∀ place ∈ walk.places,
    place.method.Fills index place.package place.entity place.kind
  marked : walk.places.map (fun place ↦ (place.package, place.method)) =
    services.flatMap Service.marked
  bindsMarked : ∀ service ∈ services, service.BindsMarked index
  marks : ∀ package entity kind service,
    services.find? (·.declares index package entity kind) = some service →
      ∃ method ∈ service.methods, method.Fills index package entity kind

section Invariant

variable {index : TypeIndex} {walk : Walk} {services done : List Service} {service : Service}
  {package entity : String} {kind : MethodKind}

theorem walked_nil (index : TypeIndex) : Walked index {} [] where
  nodup_keys := List.nodup_nil
  fills := fun _ hplace ↦ absurd hplace List.not_mem_nil
  marked := rfl
  bindsMarked := fun _ hservice ↦ absurd hservice List.not_mem_nil
  marks := fun _ _ _ _ hfind ↦ nomatch hfind

/-- A place that is taken was taken by a method of one of the services. -/
theorem Walked.exists_fills (h : Walked index walk services)
    (htaken : walk.places.any (·.isFor package entity kind) = true) :
    ∃ service ∈ services, service.package = package ∧
      ∃ method ∈ service.methods, method.Fills index package entity kind := by
  obtain ⟨place, hplace, hkey⟩ := List.mem_map.mp (any_isFor_iff.mp htaken)
  rw [Place.key, Prod.mk.injEq, Prod.mk.injEq] at hkey
  obtain ⟨rfl, rfl, rfl⟩ := hkey
  have hmarked : (place.package, place.method) ∈ services.flatMap Service.marked :=
    h.marked ▸ List.mem_map_of_mem hplace
  obtain ⟨service, hservice, hmethod⟩ := List.mem_flatMap.mp hmarked
  obtain ⟨method, hmethod, heq⟩ := List.mem_map.mp hmethod
  obtain ⟨hpackage, rfl⟩ := Prod.mk.inj heq
  exact ⟨service, hservice, hpackage, _, (List.mem_filter.mp hmethod).1, h.fills place hplace⟩

theorem Walked.start (h : Walked index walk done) (name package : String) :
    Walked index walk (done ++ [⟨name, package, [], []⟩]) where
  nodup_keys := h.nodup_keys
  fills := h.fills
  marked := by
    rw [h.marked, List.flatMap_append]
    simp [Service.marked]
  bindsMarked := by
    intro service hservice
    rcases List.mem_append.mp hservice with hservice | hservice
    · exact h.bindsMarked service hservice
    · rw [List.mem_singleton.mp hservice]
      exact ⟨nofun, nofun⟩
  marks := by
    intro owner entity kind service hfind
    refine h.marks owner entity kind service ?_
    simpa [Service.declares] using hfind

/--
The first service that declares a method for an operation still marks one if the last service gets
one more method, provided that this method is marked or comes after the place was taken.
-/
theorem Walked.marks_last (h : Walked index walk (done ++ [service])) {next found : Service}
    (hfind : (done ++ [next]).find? (·.declares index package entity kind) = some found)
    {method : Method} (hpackage : next.package = service.package)
    (hmethods : next.methods = service.methods ++ [method])
    (hmethod : ∀ entity kind, method.binding index service.package = .bound kind entity →
      method.kind = some kind ∨
        walk.places.any (·.isFor service.package entity kind) = true) :
    ∃ method ∈ found.methods, method.Fills index package entity kind := by
  rw [List.find?_append, Option.or_eq_some_iff] at hfind
  rcases hfind with hfind | ⟨hnone, hlast⟩
  · exact h.marks package entity kind found (by rw [List.find?_append, hfind, Option.some_or])
  · obtain rfl := List.mem_singleton.mp (List.mem_of_find?_eq_some hlast)
    obtain ⟨hown, last, hlastMem, hbound⟩ := Service.declares_iff.mp (List.find?_some hlast)
    obtain rfl : service.package = package := hpackage.symm.trans hown
    rw [hmethods] at hlastMem ⊢
    -- The service that declared one before the step, if any, is the last one.
    have hbefore (other : Service) (hother : other ∈ done ++ [service])
        (hdeclares : other.declares index service.package entity kind = true) :
        ∃ old ∈ service.methods ++ [method], old.Fills index service.package entity kind := by
      have hfirst : (done ++ [service]).find?
          (·.declares index service.package entity kind) = some service := by
        rw [List.find?_append, hnone, Option.none_or]
        rcases List.mem_append.mp hother with hmem | hmem
        · exact absurd hdeclares (List.find?_eq_none.mp hnone other hmem)
        · rw [List.mem_singleton.mp hmem] at hdeclares
          rw [List.find?_cons_of_pos hdeclares]
      obtain ⟨old, hold, hfills⟩ := h.marks _ _ _ _ hfirst
      exact ⟨old, List.mem_append_left _ hold, hfills⟩
    rcases List.mem_append.mp hlastMem with hold | hnew
    · exact hbefore service (by simp) (Service.declares_iff.mpr ⟨rfl, last, hold, hbound⟩)
    · rw [List.mem_singleton.mp hnew] at hbound
      rcases hmethod entity kind hbound with hkind | htaken
      · exact ⟨method, by simp, hkind, hbound⟩
      · obtain ⟨other, hother, hpackage, filler, hfiller, hfills⟩ := h.exists_fills htaken
        exact hbefore other hother
          (Service.declares_iff.mpr ⟨hpackage, filler, hfiller, hfills.2⟩)

theorem Walked.walkMethod (hindex : index.KeepsNames) (h : Walked index walk (done ++ [service]))
    (descriptor : Descriptor.Method) :
    Walked index (walkMethod index walk service descriptor).1
      (done ++ [(walkMethod index walk service descriptor).2]) := by
  have hbinds : ∀ other ∈ done ++ [(Schema.walkMethod index walk service descriptor).2],
      other.BindsMarked index := by
    intro other hother
    rcases List.mem_append.mp hother with hother | hother
    · exact h.bindsMarked other (List.mem_append_left _ hother)
    · rw [List.mem_singleton.mp hother]
      exact (h.bindsMarked service (by simp)).walkMethod hindex walk descriptor
  have hown (kind : Option MethodKind) : Method.binding index service.package
      { Method.ofDescriptor index descriptor with kind } =
        bindMethod index service.package descriptor := by
    rw [Method.binding, toDescriptor_ofDescriptor hindex]
  rcases walkMethod_cases index walk service descriptor with
    ⟨failures, heq, htaken⟩ | ⟨kind, entity, hbound, hfree, heq⟩ <;> rw [heq] at hbinds ⊢
  · have hmarks (entity : String) (kind : MethodKind)
        (hbound : (Method.ofDescriptor index descriptor).binding index service.package =
          .bound kind entity) :
        walk.places.any (·.isFor service.package entity kind) = true :=
      (htaken kind entity ((hown none).symm.trans hbound)).2
    refine ⟨h.nodup_keys, h.fills, ?_, hbinds, fun _ _ _ _ hfind ↦
      h.marks_last hfind rfl rfl fun entity kind hbound ↦ .inr (hmarks entity kind hbound)⟩
    rw [h.marked]
    simp [Service.marked, Service.withMethod, Method.ofDescriptor]
  · have hnew := fills_marked hindex hbound
    refine ⟨?_, ?_, ?_, hbinds, fun _ _ _ _ hfind ↦
      h.marks_last hfind rfl rfl fun other otherKind hother ↦ .inl ?_⟩
    · rw [List.map_append, List.map_singleton, List.nodup_append]
      refine ⟨h.nodup_keys, List.nodup_singleton _, fun key hkey other hother heq ↦ ?_⟩
      rw [heq, List.mem_singleton.mp hother] at hkey
      exact absurd (any_isFor_iff.mpr hkey) (Bool.eq_false_iff.mp hfree)
    · intro place hplace
      rcases List.mem_append.mp hplace with hplace | hplace
      · exact h.fills place hplace
      · rw [List.mem_singleton.mp hplace]
        exact hnew
    · rw [List.map_append, h.marked]
      simp [Service.marked, Service.withMethod, Method.marked]
    · obtain ⟨rfl, -⟩ := Binding.bound.inj (hnew.2.symm.trans hother)
      rfl

/-- A walk over files from the start and its services agree. -/
theorem walked_walkFiles (hindex : index.KeepsNames) (files : List File) :
    Walked index (walkFiles index {} files).1 (walkFiles index {} files).2 := by
  have hwalked := walkFiles_induction index (P := Walked index)
    (fun walk done name package h ↦ h.start name package)
    (fun walk done service descriptor h ↦ h.walkMethod hindex descriptor)
    (walked_nil index) files
  rwa [List.nil_append] at hwalked

end Invariant

end ProtoCrud.Schema
