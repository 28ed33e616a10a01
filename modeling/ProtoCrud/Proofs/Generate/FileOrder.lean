import Mathlib.Data.List.Perm.Basic
import ProtoCrud.Generate.Run
import ProtoCrud.Proofs.Schema.Resolution

/-!
# The order of the files does not matter

A schema is resolved through an index that is only ever asked for what stands under a full name. Two
indexes that answer alike resolve everything alike: this is followed here through the walk and the
entities, one function at a time. If no full name is declared twice, an answer of the index of some
files depends on what is declared, not on where, and so any order of the files gives the same schema
and the same code.
-/

namespace ProtoCrud.Schema

open Descriptor (File)

/-- Whether two indexes give the same answers to all questions. -/
structure TypeIndex.AnswersAs (index other : TypeIndex) : Prop where
  entry?_eq : index.entry? = other.entry?
  enum?_eq : index.enum? = other.enum?

namespace TypeIndex.AnswersAs

variable {index other : TypeIndex} (h : index.AnswersAs other)

include h

theorem message?_eq : index.message? = other.message? := by
  funext fullName
  rw [message?, message?, h.entry?_eq]

theorem typeRef_eq : index.typeRef = other.typeRef := by
  funext fullName
  rw [typeRef, typeRef, h.entry?_eq]

theorem declares_eq : index.declares = other.declares := by
  funext package name
  rw [declares, declares, h.message?_eq]

theorem ofDescriptor_eq : Method.ofDescriptor index = Method.ofDescriptor other := by
  funext descriptor
  rw [Method.ofDescriptor, Method.ofDescriptor, h.typeRef_eq]

theorem elementType?_eq : elementType? index = elementType? other := by
  funext package fullName
  rw [elementType?, elementType?, h.message?_eq, h.declares_eq]

theorem bindList_eq : bindList index = bindList other := by
  funext package plural output
  rw [bindList, bindList, h.declares_eq, h.elementType?_eq]

theorem bindMethod_eq : bindMethod index = bindMethod other := by
  funext package descriptor
  unfold bindMethod
  rw [h.bindList_eq, h.declares_eq]

theorem walkMethod_eq : walkMethod index = walkMethod other := by
  funext walk service descriptor
  rw [walkMethod, walkMethod, h.ofDescriptor_eq, h.bindMethod_eq]

theorem walkMethods_eq (walk : Walk) (service : Service)
    (descriptors : List Descriptor.Method) :
    walkMethods index walk service descriptors = walkMethods other walk service descriptors := by
  induction descriptors generalizing walk service with
  | nil => rfl
  | cons descriptor rest ih => simp only [walkMethods, h.walkMethod_eq, ih]

theorem walkServices_eq (package : String) (walk : Walk)
    (descriptors : List Descriptor.Service) :
    walkServices index package walk descriptors = walkServices other package walk descriptors := by
  induction descriptors generalizing walk with
  | nil => rfl
  | cons descriptor rest ih => simp only [walkServices, h.walkMethods_eq, ih]

theorem walkFiles_eq (walk : Walk) (files : List File) :
    walkFiles index walk files = walkFiles other walk files := by
  induction files generalizing walk with
  | nil => rfl
  | cons file rest ih => simp only [walkFiles, h.walkServices_eq, ih]

theorem add_eq (fields : Fields) (field : Field) :
    fields.add index field = fields.add other field := by
  rw [Fields.add, Fields.add, h.enum?_eq]

theorem addAll_eq (fields : Fields) (descriptors : List Descriptor.Field) :
    fields.addAll index descriptors = fields.addAll other descriptors := by
  induction descriptors generalizing fields with
  | nil => rfl
  | cons descriptor rest ih => simp only [Fields.addAll, h.add_eq, ih]

theorem crudMethod_eq : crudMethod index = crudMethod other := by
  funext entity entityName stored kind method
  rw [crudMethod, crudMethod, h.message?_eq]

theorem crudMethods_eq (entity entityName : String) (stored : List Field)
    (methods : List (MethodKind × Method)) :
    crudMethods index entity entityName stored methods =
      crudMethods other entity entityName stored methods := by
  induction methods with
  | nil => rfl
  | cons method rest ih => rw [crudMethods, crudMethods, h.crudMethod_eq, ih]

theorem resolveEntity_eq : resolveEntity index = resolveEntity other := by
  funext package name methods
  simp only [resolveEntity, h.message?_eq, h.addAll_eq, h.crudMethods_eq]

theorem resolveEntities_eq (walk : Walk) (names : List (String × String)) :
    resolveEntities index walk names = resolveEntities other walk names := by
  induction names with
  | nil => rfl
  | cons name rest ih => rw [resolveEntities, resolveEntities, h.resolveEntity_eq, ih]

end TypeIndex.AnswersAs

/-- The full names of all declared messages and enums. -/
def TypeIndex.names (index : TypeIndex) : List String :=
  index.messages.map Prod.fst ++ index.enums.map Prod.fst

/-- What stands under a name that stands there once is found in any order of the entries. -/
theorem lookup_reverse_eq_of_perm {β : Type} {entries others : List (String × β)}
    (hperm : entries.Perm others) (hnodup : (entries.map Prod.fst).Nodup) (key : String) :
    entries.reverse.lookup key = others.reverse.lookup key := by
  have hothers : (others.map Prod.fst).Nodup := (hperm.map Prod.fst).nodup_iff.mp hnodup
  apply Option.ext
  intro value
  rw [lookup_reverse_eq_some_iff hnodup, lookup_reverse_eq_some_iff hothers, hperm.mem_iff]

section Perm

variable {files others : List File} (hperm : files.Perm others)

include hperm

/-- The index of files in another order has the same entries. -/
theorem ofFiles_answersAs (htypes : (TypeIndex.ofFiles files).names.Nodup) :
    (TypeIndex.ofFiles files).AnswersAs (TypeIndex.ofFiles others) := by
  obtain ⟨hmessages, henums, -⟩ := List.nodup_append.mp htypes
  constructor
  · funext fullName
    exact lookup_reverse_eq_of_perm (hperm.flatMap_right _) hmessages fullName
  · funext fullName
    exact lookup_reverse_eq_of_perm (hperm.flatMap_right _) henums fullName

theorem requestedFiles_eq (hnames : (files.map (·.name)).Nodup) (requested : List String) :
    requestedFiles files requested = requestedFiles others requested := by
  have hotherNames : (others.map (·.name)).Nodup := (hperm.map (·.name)).nodup_iff.mp hnames
  have hfind (name : String) : files.find? (·.name = name) = others.find? (·.name = name) := by
    refine Option.ext fun file ↦ ?_
    rw [find?_name_eq_some_iff hnames, find?_name_eq_some_iff hotherNames, hperm.mem_iff]
  induction requested with
  | nil => rfl
  | cons name rest ih => rw [requestedFiles, requestedFiles, hfind, ih]

/-- Files in another order have the same schema, or the same one among the requested is missing. -/
theorem resolve_eq_of_perm (hnames : (files.map (·.name)).Nodup)
    (htypes : (TypeIndex.ofFiles files).names.Nodup) (requested : List String) :
    resolve files requested = resolve others requested := by
  have hindex := ofFiles_answersAs hperm htypes
  simp only [resolve, requestedFiles_eq hperm hnames, hindex.walkFiles_eq,
    hindex.resolveEntities_eq]

end Perm

end ProtoCrud.Schema

namespace ProtoCrud.Generate

open Descriptor (File)
open Schema

/--
If no two files have the same name and no two declared types have the same full name, the files may
come in any order: the schema of the requested ones is the same, down to the order of its entities,
services, bindings and failures, or the same file is missing; and a run of the generator ends with
the same files and failures, or with the same error.
-/
theorem resolve_and_generate_perm {files others : List File} (hperm : files.Perm others)
    (hnames : (files.map (·.name)).Nodup) (htypes : (TypeIndex.ofFiles files).names.Nodup)
    (requested : List String) :
    resolve files requested = resolve others requested ∧
      ∀ options, generate files requested options = generate others requested options := by
  have hresolve := resolve_eq_of_perm hperm hnames htypes requested
  exact ⟨hresolve, fun options ↦ by rw [generate, generate, hresolve]⟩

/-- A file with messages that another file refers to. -/
def stockFile : File where
  name := "stock.proto"
  package := "shop"
  messages :=
    [.mk "Crate" [⟨"id", .optional, .string, "", false, false⟩,
        ⟨"grade", .optional, .enum, ".shop.Grade", false, false⟩] [] []]
  enums := [⟨"Grade", [⟨"GRADE_PLAIN", 0⟩, ⟨"GRADE_FINE", 1⟩]⟩]
  services := []

/-- A file whose service works on a message of the other file. -/
def counterFile : File where
  name := "counter.proto"
  package := "shop"
  messages := [.mk "GetCrateRequest" [⟨"id", .optional, .string, "", false, false⟩] [] []]
  enums := []
  services :=
    [⟨"Counter", [⟨"GetCrate", ".shop.GetCrateRequest", ".shop.Crate", false, false⟩]⟩]

/-- The service finds its entity, whether the file that declares it comes first or last. -/
theorem resolve_and_generate_counter :
    ∃ schema,
      resolve [stockFile, counterFile] ["counter.proto"] = .ok schema ∧
      resolve [counterFile, stockFile] ["counter.proto"] = .ok schema ∧
      schema.entities.map Entity.key = [("shop", "Crate")] ∧
      ∀ options, generate [stockFile, counterFile] ["counter.proto"] options =
        generate [counterFile, stockFile] ["counter.proto"] options := by
  have hread : (resolve [stockFile, counterFile] ["counter.proto"]).toOption.map
      (fun schema ↦ schema.entities.map Entity.key) = some [("shop", "Crate")] := by
    decide +kernel
  obtain ⟨schema, hschema, hkeys⟩ := exists_resolve hread
  obtain ⟨hresolve, hgenerate⟩ := resolve_and_generate_perm
    (List.Perm.swap counterFile stockFile []) (by decide) (by decide +kernel) ["counter.proto"]
  exact ⟨schema, hschema, hresolve ▸ hschema, hkeys, hgenerate⟩

end ProtoCrud.Generate
