import ProtoCrud.Generate.Run
import ProtoCrud.Proofs.Schema.Walk

/-!
# Entities do not influence each other

All methods go through one list of places, but a method only looks at the places of the entity that
it is bound to, and only adds to them. So a walk and the same walk without the methods of all other
entities go side by side: what they know of the entity is the same at every step, and the entity is
resolved to the same thing, or cannot be resolved for the same reason.
-/

namespace ProtoCrud.Schema

open Descriptor (File)

def Binding.entity? : Binding → Option String
  | .bound _ entity => some entity
  | _ => none

/-- Whether a declared method stands for an operation on an entity of a package. -/
def bindsTo (index : TypeIndex) (package name : String)
    (declared : String × Descriptor.Method) : Bool :=
  declared.1 = package && (bindMethod index declared.1 declared.2).entity? = some name

/-- A file without the methods that stand for no operation on an entity of a package. -/
def keepOnly (index : TypeIndex) (package name : String) (file : File) : File :=
  { file with
    services := file.services.map fun service ↦
      { service with
        methods := service.methods.filter fun method ↦
          bindsTo index package name (file.package, method) } }

section Files

variable {index : TypeIndex} {package name : String}

/-- Leaving methods out does not change what the files declare. -/
theorem ofFiles_keepOnly (files : List File) :
    TypeIndex.ofFiles (files.map (keepOnly index package name)) = TypeIndex.ofFiles files := by
  simp [TypeIndex.ofFiles, List.flatMap_map, keepOnly]

theorem requestedFiles_keepOnly {files targets : List File} {requested : List String}
    (h : requestedFiles files requested = .ok targets) :
    requestedFiles (files.map (keepOnly index package name)) requested =
      .ok (targets.map (keepOnly index package name)) := by
  induction requested generalizing targets with
  | nil =>
    cases h
    rfl
  | cons first rest ih =>
    have hfind : (files.map (keepOnly index package name)).find? (·.name = first) =
        (files.find? (·.name = first)).map (keepOnly index package name) := by
      rw [List.find?_map]
      rfl
    rw [requestedFiles] at h ⊢
    rw [hfind]
    cases hfile : files.find? (·.name = first) with
    | none =>
      rw [hfile] at h
      cases h
    | some file =>
      rw [hfile] at h
      cases hothers : requestedFiles files rest with
      | error missing =>
        rw [hothers] at h
        cases h
      | ok others =>
        rw [hothers] at h
        cases h
        dsimp only [Option.map_some]
        rw [ih hothers]
        rfl

theorem declaredMethods_keepOnly (files : List File) :
    declaredMethods (files.map (keepOnly index package name)) =
      (declaredMethods files).filter (bindsTo index package name) := by
  simp [declaredMethods, keepOnly, List.flatMap_map, List.filter_flatMap, List.filter_map,
    Function.comp_def]

end Files

def Walk.placesOf (walk : Walk) (package name : String) : List Place :=
  walk.places.filter fun place ↦ place.package = package ∧ place.entity = name

section Walks

variable {index : TypeIndex} {package name : String} {walk own : Walk}
  {declared : String × Descriptor.Method}

theorem methodsOf_eq_foldl (walk : Walk) (package name : String) :
    walk.methodsOf package name =
      (walk.placesOf package name).foldl (fun slots place ↦ slots.fill place.kind place.method)
        {} := by
  simp [Walk.methodsOf, Walk.placesOf, List.foldl_filter]

theorem bindsTo_iff :
    bindsTo index package name declared = true ↔
      declared.1 = package ∧ ∃ kind, bindMethod index package declared.2 = .bound kind name := by
  rw [bindsTo, Bool.and_eq_true, decide_eq_true_eq, decide_eq_true_eq]
  refine and_congr_right fun hpackage ↦ ?_
  rw [hpackage]
  cases bindMethod index package declared.2 <;> simp [Binding.entity?]

/-- One method leaves the walk without a further place, or takes the one that it is bound to. -/
theorem advance_cases (index : TypeIndex) (walk : Walk) (declared : String × Descriptor.Method) :
    (∃ failures,
        walk.advance index declared = { walk with failures } ∧
        ∀ kind entity, bindMethod index declared.1 declared.2 = .bound kind entity →
          failures = walk.failures ∧
            walk.places.any (·.isFor declared.1 entity kind) = true) ∨
      ∃ kind entity,
        bindMethod index declared.1 declared.2 = .bound kind entity ∧
        walk.places.any (·.isFor declared.1 entity kind) = false ∧
        walk.advance index declared =
          { walk with places :=
              walk.places ++ [⟨declared.1, entity, kind, .marked index declared.2 kind⟩] } := by
  rcases walkMethod_cases index walk ⟨"", declared.1, [], []⟩ declared.2 with
    ⟨failures, heq, htaken⟩ | ⟨kind, entity, hbound, hfree, heq⟩
  · exact .inl ⟨failures, congrArg Prod.fst heq, htaken⟩
  · exact .inr ⟨kind, entity, hbound, hfree, congrArg Prod.fst heq⟩

/-- A method of another entity leaves the places of the entity as they are. -/
theorem placesOf_advance_of_not_bindsTo
    (h : bindsTo index package name declared = false) (walk : Walk) :
    (walk.advance index declared).placesOf package name = walk.placesOf package name := by
  rcases advance_cases index walk declared with
    ⟨failures, heq, -⟩ | ⟨kind, entity, hbound, -, heq⟩
  · rw [heq]
    rfl
  · have hother : ¬ (declared.1 = package ∧ entity = name) := by
      rintro ⟨rfl, rfl⟩
      exact Bool.eq_false_iff.mp h (bindsTo_iff.mpr ⟨rfl, kind, hbound⟩)
    rw [heq, Walk.placesOf, List.filter_append, List.filter_singleton, decide_eq_false hother]
    exact List.append_nil _

/-- Whether a place is taken shows among the places of its entity. -/
theorem any_isFor_placesOf (walk : Walk) (package name : String) (kind : MethodKind) :
    (walk.placesOf package name).any (·.isFor package name kind) =
      walk.places.any (·.isFor package name kind) := by
  rw [Walk.placesOf, List.any_filter]
  congr 1
  ext place
  simp [Place.isFor]

/-- What a walk has taken of an entity is all that a walk over its methods alone has taken. -/
structure Walk.Shares (walk own : Walk) (package name : String) : Prop where
  places_eq : own.places = walk.placesOf package name
  failures_eq : own.failures = []

/-- A method of the entity keeps the two walks side by side, and its place is taken then. -/
theorem Walk.Shares.advance (h : walk.Shares own package name)
    (hdeclared : bindsTo index package name declared = true) :
    (walk.advance index declared).Shares (own.advance index declared) package name ∧
      (own.advance index declared).places ≠ [] := by
  obtain ⟨rfl, kind, hbound⟩ := bindsTo_iff.mp hdeclared
  have hany : own.places.any (·.isFor declared.1 name kind) =
      walk.places.any (·.isFor declared.1 name kind) := by
    rw [h.places_eq, any_isFor_placesOf]
  rcases advance_cases index walk declared with
    ⟨failures, heq, htaken⟩ | ⟨otherKind, entity, hother, hfree, heq⟩
  · obtain ⟨-, htaken⟩ := htaken kind name hbound
    rcases advance_cases index own declared with
      ⟨ownFailures, hown, hkept⟩ | ⟨_, _, hother, hfree, -⟩
    · rw [heq, hown, (hkept kind name hbound).1]
      refine ⟨⟨h.places_eq, h.failures_eq⟩, fun hnil ↦ ?_⟩
      rw [htaken, show own.places = [] from hnil] at hany
      exact Bool.false_ne_true hany
    · cases hbound.symm.trans hother
      rw [hany, htaken] at hfree
      exact absurd hfree.symm Bool.false_ne_true
  · cases hbound.symm.trans hother
    rcases advance_cases index own declared with
      ⟨_, -, htaken⟩ | ⟨_, _, hsame, -, hown⟩
    · have htaken := (htaken kind name hbound).2
      rw [hany, hfree] at htaken
      exact absurd htaken Bool.false_ne_true
    · cases hbound.symm.trans hsame
      rw [heq, hown]
      refine ⟨⟨?_, h.failures_eq⟩, by simp⟩
      rw [Walk.placesOf, List.filter_append, h.places_eq]
      simp [Walk.placesOf]

/-- A walk over methods and one over those of an entity alone stay side by side. -/
theorem Walk.Shares.foldl (h : walk.Shares own package name) (index : TypeIndex)
    (methods : List (String × Descriptor.Method)) :
    (methods.foldl (Walk.advance index) walk).Shares
      ((methods.filter (bindsTo index package name)).foldl (Walk.advance index) own)
      package name := by
  induction methods generalizing walk own with
  | nil => exact h
  | cons declared rest ih =>
    rw [List.foldl_cons]
    cases hbinds : bindsTo index package name declared with
    | false =>
      rw [List.filter_cons_of_neg (by simp [hbinds])]
      refine ih ⟨?_, h.failures_eq⟩
      rw [placesOf_advance_of_not_bindsTo hbinds, h.places_eq]
    | true =>
      rw [List.filter_cons_of_pos hbinds]
      exact ih (h.advance hbinds).1

/-- Places that are taken stay taken. -/
theorem places_prefix_foldl (walk : Walk) (methods : List (String × Descriptor.Method)) :
    walk.places <+: (methods.foldl (Walk.advance index) walk).places := by
  induction methods generalizing walk with
  | nil => exact List.prefix_rfl
  | cons declared rest ih =>
    have hstep : walk.places <+: (walk.advance index declared).places := by
      rcases advance_cases index walk declared with ⟨_, heq, -⟩ | ⟨_, _, -, -, heq⟩
      · exact heq ▸ List.prefix_rfl
      · exact heq ▸ List.prefix_append _ _
    exact hstep.trans (ih _)

/-- If a method stands for an operation on the entity, a place of the entity is taken. -/
theorem Walk.Shares.places_ne_nil (h : walk.Shares own package name)
    {methods : List (String × Descriptor.Method)} (hmem : declared ∈ methods)
    (hbinds : bindsTo index package name declared = true) :
    ((methods.filter (bindsTo index package name)).foldl (Walk.advance index) own).places ≠
      [] := by
  obtain ⟨before, after, rfl⟩ := List.append_of_mem hmem
  rw [List.filter_append, List.filter_cons_of_pos hbinds, List.foldl_append, List.foldl_cons]
  have htaken := ((h.foldl index before).advance hbinds).2
  intro hnil
  exact htaken (List.prefix_nil.mp (hnil ▸ places_prefix_foldl _ _))

theorem eraseDups_eq_singleton {α : Type} [BEq α] [LawfulBEq α] {l : List α} {a : α}
    (hne : l ≠ []) (hall : ∀ b ∈ l, b = a) : l.eraseDups = [a] := by
  obtain ⟨first, rest, rfl⟩ := List.exists_cons_of_ne_nil hne
  obtain ⟨rfl, hrest⟩ := List.forall_mem_cons.mp hall
  have hfilter : rest.filter (fun b ↦ !b == first) = [] :=
    List.filter_eq_nil_iff.mpr fun b hb ↦ by simp [hrest b hb]
  rw [List.eraseDups_cons, hfilter, List.eraseDups_nil]

/-- A walk over the methods of an entity alone finds this entity and nothing else. -/
theorem Walk.Shares.entities_eq (h : walk.Shares own package name) (hne : own.places ≠ []) :
    own.entities = [(package, name)] ∧ (package, name) ∈ walk.entities := by
  have hall (place : Place) (hplace : place ∈ own.places) :
      place ∈ walk.places ∧ (place.package, place.entity) = (package, name) := by
    rw [h.places_eq, Walk.placesOf, List.mem_filter, decide_eq_true_eq] at hplace
    exact ⟨hplace.1, Prod.ext hplace.2.1 hplace.2.2⟩
  constructor
  · refine eraseDups_eq_singleton (by simpa using hne) fun key hkey ↦ ?_
    obtain ⟨place, hplace, rfl⟩ := List.mem_map.mp hkey
    exact (hall place hplace).2
  · obtain ⟨place, hplace⟩ := List.exists_mem_of_ne_nil _ hne
    obtain ⟨hmem, hkey⟩ := hall place hplace
    rw [Walk.entities, List.mem_eraseDups, ← hkey]
    exact List.mem_map_of_mem hmem

theorem Walk.Shares.methodsOf_eq (h : walk.Shares own package name) :
    own.methodsOf package name = walk.methodsOf package name := by
  have hown : own.placesOf package name = walk.placesOf package name := by
    rw [Walk.placesOf, h.places_eq, Walk.placesOf, List.filter_filter]
    simp
  rw [methodsOf_eq_foldl, methodsOf_eq_foldl, hown]

end Walks

/-- What resolving an entity gives after the walk over the requested ones of some files. -/
def outcomeOf (files targets : List File) (package name : String) : Except Reason Entity :=
  let index := TypeIndex.ofFiles files
  resolveEntity index package name ((walkFiles index {} targets).1.methodsOf package name)

/-- A resolved schema shows what resolving an entity has given: the entity, or why there is none. -/
structure Resolution.Shows (schema : Resolution) (package name : String)
    (outcome : Except Reason Entity) : Prop where
  entities_eq : schema.entities.filter (·.key = (package, name)) = outcome.toOption.toList
  mem_failures : ∀ reason, outcome = .error reason → ⟨name, reason⟩ ∈ schema.failures

section Outcome

variable {index : TypeIndex} {walk : Walk} {package name : String}

theorem filter_key_resolveEntities_of_notMem (index : TypeIndex) (walk : Walk)
    {names : List (String × String)} (h : (package, name) ∉ names) :
    (resolveEntities index walk names).1.filter (·.key = (package, name)) = [] := by
  refine List.filter_eq_nil_iff.mpr fun entity hentity hkey ↦ h ?_
  rw [← of_decide_eq_true hkey]
  exact (keys_resolveEntities_sublist index walk names).subset (List.mem_map_of_mem hentity)

/-- Every entity is resolved on its own: the result shows what resolving it gives. -/
theorem resolveEntities_shows {names : List (String × String)} (hnodup : names.Nodup)
    (hmem : (package, name) ∈ names) :
    (resolveEntities index walk names).1.filter (·.key = (package, name)) =
        (resolveEntity index package name (walk.methodsOf package name)).toOption.toList ∧
      ∀ reason, resolveEntity index package name (walk.methodsOf package name) = .error reason →
        ⟨name, reason⟩ ∈ (resolveEntities index walk names).2 := by
  induction names with
  | nil => cases hmem
  | cons first rest ih =>
    obtain ⟨firstPackage, firstName⟩ := first
    obtain ⟨hfresh, hrest⟩ := List.nodup_cons.mp hnodup
    rw [resolveEntities]
    dsimp only
    rcases List.mem_cons.mp hmem with heq | hmem
    · obtain ⟨rfl, rfl⟩ := Prod.mk.inj heq
      have hnone := filter_key_resolveEntities_of_notMem index walk hfresh
      split
      · next entity hentity =>
        have hkey := resolveEntity_key hentity
        rw [List.filter_cons_of_pos (by simpa using hkey), hnone, hentity]
        exact ⟨rfl, fun _ herror ↦ by cases herror⟩
      · next reason hreason =>
        refine ⟨by rw [hnone, hreason]; rfl, fun other hother ↦ ?_⟩
        rw [Except.error.inj (hother.symm.trans hreason)]
        exact List.mem_cons_self
    · obtain ⟨hentities, hfailures⟩ := ih hrest hmem
      split
      · next entity hentity =>
        have hkey := resolveEntity_key hentity
        have hother : entity.key ≠ (package, name) := by
          rw [hkey]
          exact fun heq ↦ hfresh (heq ▸ hmem)
        exact ⟨by rwa [List.filter_cons_of_neg (by simpa using hother)], hfailures⟩
      · exact ⟨hentities, fun reason herror ↦ List.mem_cons_of_mem _ (hfailures reason herror)⟩

theorem resolve_of_requestedFiles {files targets : List File} {requested : List String}
    {schema : Resolution} (htargets : requestedFiles files requested = .ok targets)
    (h : resolve files requested = .ok schema) :
    ∃ walk, walk = (walkFiles (TypeIndex.ofFiles files) {} targets).1 ∧
      schema.entities = (resolveEntities (TypeIndex.ofFiles files) walk walk.entities).1 ∧
      schema.failures =
        walk.failures ++ (resolveEntities (TypeIndex.ofFiles files) walk walk.entities).2 := by
  rw [resolve, htargets] at h
  cases h
  exact ⟨_, rfl, rfl, rfl⟩

/-- An entity that a walk has found is resolved, or reported with the reason. -/
theorem resolve_shows {files targets : List File} {requested : List String}
    {schema : Resolution} (htargets : requestedFiles files requested = .ok targets)
    (h : resolve files requested = .ok schema)
    (hfound : (package, name) ∈ (walkFiles (TypeIndex.ofFiles files) {} targets).1.entities) :
    schema.Shows package name (outcomeOf files targets package name) := by
  obtain ⟨walk, rfl, hentities, hfailures⟩ := resolve_of_requestedFiles htargets h
  obtain ⟨hfilter, hreason⟩ := resolveEntities_shows (nodup_eraseDups _) hfound
  constructor
  · rw [hentities]
    exact hfilter
  · intro reason herror
    rw [hfailures]
    exact List.mem_append_right _ (hreason reason herror)

end Outcome

end ProtoCrud.Schema

namespace ProtoCrud.Generate

open Descriptor (File)
open Schema

variable {files targets : List File} {requested : List String} {schema : Resolution}
  {package name : String}

/--
An entity that some method stands for comes out the same if all methods that do not stand for an
operation on it are left out of all services: either both schemas hold the same entity under its
names, with the same code made for it, or resolving it fails in both for the same reason, which
both report.
-/
theorem resolve_keepOnly (h : resolve files requested = .ok schema)
    (htargets : requestedFiles files requested = .ok targets)
    (hbinds : ∃ declared ∈ declaredMethods targets,
      bindsTo (TypeIndex.ofFiles files) package name declared = true) :
    let keep := keepOnly (TypeIndex.ofFiles files) package name
    ∃ outcome pruned,
      resolve (files.map keep) requested = .ok pruned ∧
      outcomeOf files targets package name = outcome ∧
      outcomeOf (files.map keep) (targets.map keep) package name = outcome ∧
      schema.Shows package name outcome ∧ pruned.Shows package name outcome ∧
      pruned.entities = outcome.toOption.toList ∧
      ∀ options, entityFiles options (schema.entities.filter (·.key = (package, name))) =
        entityFiles options pruned.entities := by
  intro keep
  obtain ⟨declared, hdeclared, hbinds⟩ := hbinds
  have hstart : Walk.Shares {} {} package name := ⟨rfl, rfl⟩
  have hshares := hstart.foldl (TypeIndex.ofFiles files) (declaredMethods targets)
  have hne := hstart.places_ne_nil hdeclared hbinds
  rw [← declaredMethods_keepOnly, ← walkFiles_fst] at hne
  rw [← declaredMethods_keepOnly, ← walkFiles_fst, ← walkFiles_fst] at hshares
  obtain ⟨hown, hfound⟩ := hshares.entities_eq hne
  have hkept : requestedFiles (files.map keep) requested = .ok (targets.map keep) :=
    requestedFiles_keepOnly htargets
  have hindex : TypeIndex.ofFiles (files.map keep) = TypeIndex.ofFiles files :=
    ofFiles_keepOnly files
  obtain ⟨pruned, hpruned⟩ : ∃ pruned, resolve (files.map keep) requested = .ok pruned := by
    rw [resolve, hkept]
    exact ⟨_, rfl⟩
  have hsame : outcomeOf (files.map keep) (targets.map keep) package name =
      outcomeOf files targets package name := by
    rw [outcomeOf, hindex, hshares.methodsOf_eq, outcomeOf]
  have hshows := resolve_shows htargets h hfound
  have hprunedShows := resolve_shows hkept hpruned
    (by rw [hindex, hown]; exact List.mem_singleton_self _)
  rw [hsame] at hprunedShows
  have hall : pruned.entities.filter (·.key = (package, name)) = pruned.entities := by
    obtain ⟨_, rfl, hentities, -⟩ := resolve_of_requestedFiles hkept hpruned
    rw [hindex, hown] at hentities
    refine List.filter_eq_self.mpr fun entity hentity ↦ decide_eq_true ?_
    rw [hentities] at hentity
    have hkey := (keys_resolveEntities_sublist _ _ _).subset (List.mem_map_of_mem hentity)
    exact List.mem_singleton.mp hkey
  refine ⟨_, pruned, hpruned, rfl, hsame, hshows, hprunedShows, ?_, fun options ↦ ?_⟩
  · rw [← hall, hprunedShows.entities_eq]
  · rw [hshows.entities_eq, ← hprunedShows.entities_eq, hall]

/-- A file with two entities, of which the first one cannot be resolved. -/
def deskFile : File where
  name := "desk.proto"
  package := "shop"
  messages :=
    [.mk "Item" [⟨"tags", .repeated, .string, "", false, false⟩] [] [],
      .mk "Order" [⟨"id", .optional, .string, "", false, false⟩] [] [],
      .mk "LookupRequest" [⟨"id", .optional, .string, "", false, false⟩] [] []]
  enums := []
  services :=
    [⟨"Desk",
      [⟨"GetItem", ".shop.LookupRequest", ".shop.Item", false, false⟩,
        ⟨"GetOrder", ".shop.LookupRequest", ".shop.Order", false, false⟩]⟩]

/-- Orders come out the same without the method of items. -/
theorem keepOnly_order :
    ∃ schema pruned,
      resolve [deskFile] ["desk.proto"] = .ok schema ∧
      resolve [keepOnly (TypeIndex.ofFiles [deskFile]) "shop" "Order" deskFile] ["desk.proto"] =
        .ok pruned ∧
      schema.entities.filter (·.key = ("shop", "Order")) = pruned.entities ∧
      pruned.entities.length = 1 := by
  have hread : (resolve [deskFile] ["desk.proto"]).toOption.map
      (fun schema ↦ (schema.entities.filter (·.key = ("shop", "Order"))).length) = some 1 := by
    decide +kernel
  have hbinds : ∃ declared ∈ declaredMethods [deskFile],
      bindsTo (TypeIndex.ofFiles [deskFile]) "shop" "Order" declared = true := by
    decide +kernel
  obtain ⟨schema, hschema, hlength⟩ := exists_resolve hread
  obtain ⟨outcome, pruned, hpruned, -, -, hshows, -, hentities, -⟩ :=
    resolve_keepOnly hschema rfl hbinds
  have hsame := hshows.entities_eq.trans hentities.symm
  exact ⟨schema, pruned, hschema, hpruned, hsame, by rw [← hsame, hlength]⟩

end ProtoCrud.Generate
