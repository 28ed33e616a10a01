import ProtoCrud.Proofs.Schema.Resolution

/-!
# Where the methods of a resolved schema come from

The methods of the services and the operations of the entities of a resolved schema are methods
that the files declare, in the package that the file says. What holds of every declared method
holds of all of them, as no step of the walk makes a method of its own.
-/

namespace ProtoCrud.Schema

open Descriptor (File)

/-- What holds of the declared methods of the files, in their packages, whatever they stand for. -/
def HoldsOfDeclared (index : TypeIndex) (files : List File) (P : String → Method → Prop) : Prop :=
  ∀ file ∈ files, ∀ service ∈ file.services, ∀ method ∈ service.methods, ∀ kind,
    P file.package { Method.ofDescriptor index method with kind }

section Walk

variable {index : TypeIndex} {P : String → Method → Prop} {walk : Walk}
  {service : Service} {package : String}

def Walk.Holds (walk : Walk) (P : String → Method → Prop) : Prop :=
  ∀ place ∈ walk.places, P place.package place.method

def Service.Holds (service : Service) (P : String → Method → Prop) : Prop :=
  ∀ method ∈ service.methods, P service.package method

theorem walkMethod_holds {descriptor : Descriptor.Method} (hwalk : walk.Holds P)
    (hservice : service.Holds P)
    (hmethod : ∀ kind, P service.package { Method.ofDescriptor index descriptor with kind }) :
    (walkMethod index walk service descriptor).1.Holds P ∧
      (walkMethod index walk service descriptor).2.Holds P ∧
      (walkMethod index walk service descriptor).2.package = service.package := by
  have hadded (kind : Option MethodKind) : ∀ method ∈
      service.methods ++ [{ Method.ofDescriptor index descriptor with kind }],
        P service.package method := by
    intro method hmem
    rcases List.mem_append.mp hmem with hmem | hmem
    · exact hservice method hmem
    · exact List.mem_singleton.mp hmem ▸ hmethod kind
  rw [walkMethod]
  dsimp only
  split
  · exact ⟨hwalk, hadded none, rfl⟩
  · exact ⟨hwalk, hadded none, rfl⟩
  · next kind entity _ =>
    split
    · exact ⟨hwalk, hadded none, rfl⟩
    · refine ⟨fun place hplace ↦ ?_, hadded (some kind), rfl⟩
      rcases List.mem_append.mp hplace with hplace | hplace
      · exact hwalk place hplace
      · obtain rfl := List.mem_singleton.mp hplace
        exact hmethod (some kind)

theorem walkMethods_holds {descriptors : List Descriptor.Method} (hwalk : walk.Holds P)
    (hservice : service.Holds P)
    (hmethods : ∀ descriptor ∈ descriptors, ∀ kind,
      P service.package { Method.ofDescriptor index descriptor with kind }) :
    (walkMethods index walk service descriptors).1.Holds P ∧
      (walkMethods index walk service descriptors).2.Holds P := by
  induction descriptors generalizing walk service with
  | nil => exact ⟨hwalk, hservice⟩
  | cons descriptor rest ih =>
    obtain ⟨hdescriptor, hrest⟩ := List.forall_mem_cons.mp hmethods
    obtain ⟨hnext, hwalked, hpackage⟩ := walkMethod_holds hwalk hservice hdescriptor
    exact ih hnext hwalked (hpackage.symm ▸ hrest)

theorem walkServices_holds {descriptors : List Descriptor.Service} (hwalk : walk.Holds P)
    (hmethods : ∀ descriptor ∈ descriptors, ∀ method ∈ descriptor.methods, ∀ kind,
      P package { Method.ofDescriptor index method with kind }) :
    (walkServices index package walk descriptors).1.Holds P ∧
      ∀ service ∈ (walkServices index package walk descriptors).2, service.Holds P := by
  induction descriptors generalizing walk with
  | nil => exact ⟨hwalk, fun _ hservice ↦ absurd hservice List.not_mem_nil⟩
  | cons descriptor rest ih =>
    obtain ⟨hdescriptor, hrest⟩ := List.forall_mem_cons.mp hmethods
    have hfresh : Service.Holds ⟨descriptor.name, package, [], []⟩ P :=
      fun _ hmethod ↦ absurd hmethod List.not_mem_nil
    obtain ⟨hnext, hwalked⟩ := walkMethods_holds hwalk hfresh hdescriptor
    obtain ⟨hlast, hservices⟩ := ih hnext hrest
    exact ⟨hlast, List.forall_mem_cons.mpr ⟨hwalked, hservices⟩⟩

theorem walkFiles_holds {files : List File} (hwalk : walk.Holds P)
    (hfiles : HoldsOfDeclared index files P) :
    (walkFiles index walk files).1.Holds P ∧
      ∀ service ∈ (walkFiles index walk files).2, service.Holds P := by
  induction files generalizing walk with
  | nil => exact ⟨hwalk, fun _ hservice ↦ absurd hservice List.not_mem_nil⟩
  | cons file rest ih =>
    obtain ⟨hfile, hrest⟩ := List.forall_mem_cons.mp hfiles
    obtain ⟨hnext, hfirst⟩ := walkServices_holds hwalk hfile
    obtain ⟨hlast, hothers⟩ := ih hnext hrest
    refine ⟨hlast, fun service hservice ↦ ?_⟩
    exact (List.mem_append.mp hservice).elim (hfirst service) (hothers service)

theorem Slots.mem_toList {α : Type} {slots : Slots α} {kind : MethodKind} {content : α} :
    (kind, content) ∈ slots.toList ↔ slots.at? kind = some content := by
  have hall : kind ∈ MethodKind.all := by
    cases kind <;> decide
  rw [Slots.toList, List.mem_filterMap]
  constructor
  · rintro ⟨other, -, hother⟩
    obtain ⟨found, hfound, heq⟩ := Option.map_eq_some_iff.mp hother
    cases heq
    exact hfound
  · intro h
    exact ⟨kind, hall, by rw [h]; rfl⟩

/-- What holds of the methods that have taken places holds of those of an entity. -/
theorem Walk.Holds.methodsOf (h : walk.Holds P) {package entity : String} {kind : MethodKind}
    {method : Method} (hmethod : (walk.methodsOf package entity).at? kind = some method) :
    P package method := by
  have hplaces (places : List Place) (hplaces : ∀ place ∈ places, P place.package place.method) :
      ∀ (slots : Slots Method), (∀ kind method, slots.at? kind = some method → P package method) →
        ∀ kind method, (places.foldl
          (fun slots place ↦
            if place.package = package ∧ place.entity = entity then
              slots.fill place.kind place.method
            else slots) slots).at? kind = some method → P package method := by
    induction places with
    | nil => exact fun _ hslots ↦ hslots
    | cons place rest ih =>
      obtain ⟨hplace, hrest⟩ := List.forall_mem_cons.mp hplaces
      intro slots hslots
      refine ih hrest _ fun kind method hkind ↦ ?_
      dsimp only at hkind
      split at hkind
      · next hown =>
        rw [Slots.at?_fill] at hkind
        split at hkind
        · cases hkind
          exact hown.1 ▸ hplace
        · exact hslots kind method hkind
      · exact hslots kind method hkind
  refine hplaces walk.places h {} (fun kind method hnone ↦ ?_) kind method hmethod
  cases kind <;> cases hnone

end Walk

theorem requestedFiles_subset {files targets : List File} {requested : List String}
    (h : requestedFiles files requested = .ok targets) : ∀ file ∈ targets, file ∈ files := by
  induction requested generalizing targets with
  | nil =>
    cases h
    exact fun _ hfile ↦ absurd hfile List.not_mem_nil
  | cons name rest ih =>
    rw [requestedFiles] at h
    split at h
    · cases h
    · next first hfirst =>
      cases hothers : requestedFiles files rest with
      | error missing =>
        rw [hothers] at h
        cases h
      | ok others =>
        rw [hothers] at h
        cases h
        exact List.forall_mem_cons.mpr ⟨List.mem_of_find?_eq_some hfirst, ih hothers⟩

/-- Files that are all present are found. -/
theorem exists_requestedFiles {files : List File} {requested : List String}
    (h : ∀ name ∈ requested, ∃ file ∈ files, file.name = name) :
    ∃ targets, requestedFiles files requested = .ok targets := by
  induction requested with
  | nil => exact ⟨[], rfl⟩
  | cons name rest ih =>
    obtain ⟨⟨file, hfile, hname⟩, hrest⟩ := List.forall_mem_cons.mp h
    obtain ⟨others, hothers⟩ := ih hrest
    have hfind : (files.find? (·.name = name)).isSome = true :=
      List.find?_isSome.mpr ⟨file, hfile, by simpa using hname⟩
    obtain ⟨first, hfirst⟩ := Option.isSome_iff_exists.mp hfind
    exact ⟨first :: others, by rw [requestedFiles, hfirst, hothers]; rfl⟩

variable {files : List File} {requested : List String} {schema : Resolution}
  {P : String → Method → Prop}

/-- The schema of files that are all present can be resolved. -/
theorem exists_schema (h : ∀ name ∈ requested, ∃ file ∈ files, file.name = name) :
    ∃ schema, resolve files requested = .ok schema := by
  obtain ⟨targets, htargets⟩ := exists_requestedFiles h
  exact ⟨_, by rw [resolve, htargets]; rfl⟩

/--
What holds of the declared methods holds of the methods of every service and of the operations of
every entity, of which there is at least one.
-/
theorem resolve_holds (h : resolve files requested = .ok schema)
    (hfiles : HoldsOfDeclared (TypeIndex.ofFiles files) files P) :
    (∀ service ∈ schema.services, service.Holds P) ∧
      ∀ entity ∈ schema.entities, (∃ method, P entity.package method) ∧
        ∀ kind operation, entity.methods.at? kind = some operation →
          P entity.package operation.method := by
  obtain ⟨targets, walk, services, htargets, hwalk, hentities, hservices⟩ := resolve_cases h
  have hdeclared : HoldsOfDeclared (TypeIndex.ofFiles files) targets P :=
    fun file hfile ↦ hfiles file (requestedFiles_subset htargets file hfile)
  have hstart : Walk.Holds {} P := fun _ hplace ↦ absurd hplace List.not_mem_nil
  have hholds := walkFiles_holds hstart hdeclared
  rw [hwalk] at hholds
  constructor
  · intro service hservice
    rw [hservices] at hservice
    obtain ⟨whole, hwhole, rfl⟩ := List.mem_map.mp hservice
    exact hholds.2 whole hwhole
  · intro entity hentity
    rw [hentities] at hentity
    obtain ⟨package, name, hname, hresolve⟩ := exists_of_mem_resolveEntities hentity
    obtain ⟨_, fields, operations, -, -, -, hoperations, rfl⟩ := resolveEntity_cases hresolve
    constructor
    · rw [Walk.entities, List.mem_eraseDups, List.mem_map] at hname
      obtain ⟨place, hplace, hkey⟩ := hname
      exact ⟨place.method, (Prod.mk.inj hkey).1 ▸ hholds.1 place hplace⟩
    · intro kind operation hoperation
      obtain ⟨method, hmethod, hchecked⟩ := crudMethods_at? hoperations hoperation
      obtain ⟨_, -, -, rfl⟩ := crudMethod_cases hchecked
      exact hholds.1.methodsOf (Slots.mem_toList.mp hmethod)

end ProtoCrud.Schema
