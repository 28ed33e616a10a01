import Mathlib.Data.List.Dedup
import Mathlib.Data.List.Perm.Basic
import Mathlib.Data.String.Basic
import ProtoCrud.Generate.Run
import ProtoCrud.Proofs.Code.Formatted
import ProtoCrud.Proofs.Schema.Resolution
import ProtoCrud.Proofs.Text.Cut
import ProtoCrud.Proofs.Text.Words

/-!
# The files of a run

A run puts the files of entities and packages together by their paths. The output has one file for
each of them if and only if their paths are distinct, and the file of a package declares its
entities by names that can be names of modules if and only if none of them is a keyword. Both come
down to the names of the entities in snake case.
-/

namespace ProtoCrud.Generate

open Code Schema
open Text (snakeCase)

/-! ## Files put together by their paths -/

def putFiles (files written : List (String × List Token)) : List (String × List Token) :=
  written.foldl (fun files (path, content) ↦ putFile path content files) files

theorem mem_paths_putFile {path other : String} {content : List Token}
    {files : List (String × List Token)} :
    other ∈ (putFile path content files).map Prod.fst ↔
      other = path ∨ other ∈ files.map Prod.fst := by
  induction files with
  | nil => simp [putFile]
  | cons file files ih =>
    obtain ⟨name, existing⟩ := file
    rw [putFile]
    split
    · simp
    · split
      · next heq => simp [heq]
      · rw [List.map_cons, List.map_cons, List.mem_cons, ih, List.mem_cons, or_left_comm]

/-- The paths stay in order, each of them once. -/
theorem isOrdered_putFile {path : String} {content : List Token}
    {files : List (String × List Token)} (h : (files.map Prod.fst).Pairwise (· < ·)) :
    ((putFile path content files).map Prod.fst).Pairwise (· < ·) := by
  induction files with
  | nil => simp [putFile]
  | cons file files ih =>
    obtain ⟨name, existing⟩ := file
    rw [List.map_cons, List.pairwise_cons] at h
    rw [putFile]
    split
    · next hlt =>
      refine List.pairwise_cons.mpr ⟨fun other hother ↦ ?_, List.pairwise_cons.mpr h⟩
      rcases List.mem_cons.mp hother with rfl | hother
      · exact hlt
      · exact hlt.trans (h.1 other hother)
    · next hle =>
      split
      · next heq => exact heq ▸ List.pairwise_cons.mpr h
      · next hne =>
        refine List.pairwise_cons.mpr ⟨fun other hother ↦ ?_, ih h.2⟩
        rcases mem_paths_putFile.mp hother with rfl | hother
        · exact lt_of_le_of_ne (not_lt.mp hle) (Ne.symm hne)
        · exact h.1 other hother

theorem mem_paths_putFiles {path : String} {files written : List (String × List Token)} :
    path ∈ (putFiles files written).map Prod.fst ↔
      path ∈ files.map Prod.fst ∨ path ∈ written.map Prod.fst := by
  induction written generalizing files with
  | nil => simp [putFiles]
  | cons file written ih =>
    rw [putFiles, List.foldl_cons, ← putFiles, ih, mem_paths_putFile, List.map_cons,
      List.mem_cons, or_assoc, or_left_comm]

theorem isOrdered_putFiles {files written : List (String × List Token)}
    (h : (files.map Prod.fst).Pairwise (· < ·)) :
    ((putFiles files written).map Prod.fst).Pairwise (· < ·) := by
  induction written generalizing files with
  | nil => exact h
  | cons file written ih => exact ih (isOrdered_putFile h)

/-- The file found at a path is the one that was written there last. -/
theorem lookup_putFiles (path : String) (files written : List (String × List Token)) :
    (putFiles files written).lookup path = (written.reverse ++ files).lookup path := by
  induction written generalizing files with
  | nil => rfl
  | cons file written ih =>
    obtain ⟨name, content⟩ := file
    rw [putFiles, List.foldl_cons, ← putFiles, ih, List.lookup_append, lookup_putFile,
      List.reverse_cons, List.append_assoc, List.lookup_append, List.singleton_append,
      lookup_cons_eq_ite]

/-- There are as many files as were written if and only if no path was written twice. -/
theorem length_putFiles_iff {written : List (String × List Token)} :
    (putFiles [] written).length = written.length ↔ (written.map Prod.fst).Nodup := by
  have hnodup : ((putFiles [] written).map Prod.fst).Nodup :=
    (isOrdered_putFiles List.Pairwise.nil).imp ne_of_lt
  have hperm : ((putFiles [] written).map Prod.fst).Perm (written.map Prod.fst).dedup := by
    refine (List.perm_ext_iff_of_nodup hnodup (List.nodup_dedup _)).mpr fun path ↦ ?_
    rw [List.mem_dedup, mem_paths_putFiles]
    simp
  have hlength : (putFiles [] written).length = (written.map Prod.fst).dedup.length := by
    simpa using hperm.length_eq
  have hcount : (written.map Prod.fst).length = written.length := List.length_map ..
  rw [hlength, ← List.dedup_eq_self, ← hcount]
  exact ⟨(List.dedup_sublist _).eq_of_length, congrArg List.length⟩

/-! ## Files that are written -/

theorem entityFiles_cases {options : Options} {entities : List Entity}
    {files : List (String × List Token)} (h : entityFiles options entities = .ok files) :
    files.map Prod.fst = entities.map entityPath ∧
      ∀ entity ∈ entities, ∃ content, entityFile options entity = .ok content ∧
        (entityPath entity, content) ∈ files := by
  induction entities generalizing files with
  | nil =>
    cases h
    exact ⟨rfl, fun _ hentity ↦ absurd hentity List.not_mem_nil⟩
  | cons first rest ih =>
    rw [entityFiles] at h
    obtain ⟨content, hcontent, h⟩ := bind_eq_ok.mp h
    obtain ⟨others, hothers, h⟩ := bind_eq_ok.mp h
    cases h
    obtain ⟨hpaths, hfiles⟩ := ih hothers
    refine ⟨by rw [List.map_cons, List.map_cons, hpaths], fun entity hentity ↦ ?_⟩
    rcases List.mem_cons.mp hentity with rfl | hentity
    · exact ⟨content, hcontent, List.mem_cons_self⟩
    · obtain ⟨other, hother, hmem⟩ := hfiles entity hentity
      exact ⟨other, hother, List.mem_cons_of_mem _ hmem⟩

def entitiesOf (schema : Resolution) (package : String) : List Entity :=
  schema.entities.filter (·.package = package)

def servicesOf (schema : Resolution) (package : String) : List Service :=
  schema.services.filter (·.package = package)

/-- The paths of the files of packages and of their entities, in the order of writing. -/
def pathsOf (schema : Resolution) (packages : List String) : List String :=
  packages.flatMap fun package ↦
    (entitiesOf schema package).map entityPath ++ [packagePath package]

theorem packageFile_cases {options : Options} {package : String} {entities : List Entity}
    {services : List Service} {content : List Token}
    (h : packageFile options package entities services = .ok content) :
    ∃ code, packageCode options package entities services = .ok code ∧
      formattedFile code = .ok content :=
  bind_eq_ok.mp h

theorem packageFiles_cases {options : Options} {schema : Resolution} {packages : List String}
    {written : List (String × List Token)}
    (h : packageFiles options schema packages = .ok written) :
    written.map Prod.fst = pathsOf schema packages ∧
      ∀ package ∈ packages,
        (∀ entity ∈ entitiesOf schema package, ∃ content,
          entityFile options entity = .ok content ∧ (entityPath entity, content) ∈ written) ∧
        ∃ content, packageFile options package (entitiesOf schema package)
          (servicesOf schema package) = .ok content ∧ (packagePath package, content) ∈ written := by
  induction packages generalizing written with
  | nil =>
    cases h
    exact ⟨rfl, fun _ hpackage ↦ absurd hpackage List.not_mem_nil⟩
  | cons first rest ih =>
    rw [packageFiles] at h
    obtain ⟨files, hfiles, h⟩ := bind_eq_ok.mp h
    obtain ⟨root, hroot, h⟩ := bind_eq_ok.mp h
    obtain ⟨others, hothers, h⟩ := bind_eq_ok.mp h
    cases h
    obtain ⟨hentityPaths, hentities⟩ := entityFiles_cases hfiles
    obtain ⟨hpaths, hpackages⟩ := ih hothers
    constructor
    · rw [List.map_append, List.map_cons, hentityPaths, hpaths, pathsOf,
        pathsOf, List.flatMap_cons, List.append_assoc, List.singleton_append]
      rfl
    · intro package hpackage
      rcases List.mem_cons.mp hpackage with rfl | hpackage
      · refine ⟨fun entity hentity ↦ ?_, root, hroot, by simp⟩
        obtain ⟨content, hcontent, hmem⟩ := hentities entity hentity
        exact ⟨content, hcontent, List.mem_append_left _ hmem⟩
      · obtain ⟨hothersOf, otherRoot, hotherRoot, hmem⟩ := hpackages package hpackage
        refine ⟨fun entity hentity ↦ ?_, otherRoot, hotherRoot, by simp [hmem]⟩
        obtain ⟨content, hcontent, hmem⟩ := hothersOf entity hentity
        exact ⟨content, hcontent, by simp [hmem]⟩

theorem ofSchema_cases {options : Options} {schema : Resolution} {output : Output}
    (h : ofSchema options schema = .ok output) :
    ∃ written, packageFiles options schema schema.packages = .ok written ∧
      output.files = putFiles [] written := by
  rw [ofSchema] at h
  split at h
  · cases h
  · obtain ⟨written, hwritten, h⟩ := bind_eq_ok.mp h
    cases h
    exact ⟨written, hwritten, rfl⟩

/-- The files of a package are written: those of its entities and its own. -/
structure WritesPackage (options : Options) (schema : Resolution) (package : String) : Prop where
  entities : ∀ entity ∈ entitiesOf schema package, ∃ content,
    entityFile options entity = .ok content
  root : ∃ content, packageFile options package (entitiesOf schema package)
    (servicesOf schema package) = .ok content

theorem exists_entityFiles {options : Options} {entities : List Entity}
    (h : ∀ entity ∈ entities, ∃ content, entityFile options entity = .ok content) :
    ∃ files, entityFiles options entities = .ok files := by
  induction entities with
  | nil => exact ⟨[], rfl⟩
  | cons entity rest ih =>
    obtain ⟨⟨content, hcontent⟩, hrest⟩ := List.forall_mem_cons.mp h
    obtain ⟨others, hothers⟩ := ih hrest
    exact ⟨_, bind_eq_ok.mpr ⟨content, hcontent, bind_eq_ok.mpr ⟨others, hothers, rfl⟩⟩⟩

theorem exists_packageFiles {options : Options} {schema : Resolution} {packages : List String}
    (h : ∀ package ∈ packages, WritesPackage options schema package) :
    ∃ written, packageFiles options schema packages = .ok written := by
  induction packages with
  | nil => exact ⟨[], rfl⟩
  | cons package rest ih =>
    obtain ⟨hpackage, hrest⟩ := List.forall_mem_cons.mp h
    obtain ⟨files, hfiles⟩ := exists_entityFiles hpackage.entities
    obtain ⟨root, hroot⟩ := hpackage.root
    obtain ⟨others, hothers⟩ := ih hrest
    exact ⟨_, bind_eq_ok.mpr ⟨files, hfiles,
      bind_eq_ok.mpr ⟨root, hroot, bind_eq_ok.mpr ⟨others, hothers, rfl⟩⟩⟩⟩

/-- A run that is not strict succeeds if and only if all files of its packages are written. -/
theorem exists_output_iff {files : List Descriptor.File} {requested : List String}
    {options : Options} {schema : Resolution} (hstrict : options.strict = false)
    (hschema : resolve files requested = .ok schema) :
    (∃ output, generate files requested options = .ok output) ↔
      ∀ package ∈ schema.packages, WritesPackage options schema package := by
  rw [generate, hschema]
  constructor
  · rintro ⟨output, houtput⟩ package hpackage
    obtain ⟨written, hwritten, -⟩ := ofSchema_cases houtput
    obtain ⟨hentities, content, hcontent, -⟩ := (packageFiles_cases hwritten).2 package hpackage
    exact ⟨fun entity hentity ↦ (hentities entity hentity).imp fun _ h ↦ h.1, content, hcontent⟩
  · intro h
    obtain ⟨written, hwritten⟩ := exists_packageFiles h
    refine ⟨⟨putFiles [] written, schema.failures⟩, ?_⟩
    dsimp only
    rw [ofSchema, hstrict, Bool.false_and, if_neg Bool.false_ne_true]
    exact bind_eq_ok.mpr ⟨written, hwritten, rfl⟩

theorem formattedFile_eq_ok {code content : List Token} :
    formattedFile code = .ok content ↔ formatted? code = some content := by
  rw [formattedFile]
  cases formatted? code with
  | none => constructor <;> intro h <;> cases h
  | some file => constructor <;> intro h <;> cases h <;> rfl

/-- Whether code that is made is formatted, so far as its lexemes tell. -/
def isWritten? (result : Except Abort (List Token)) : Option Bool :=
  result.toOption.bind isFormatted?

theorem exists_isFormatted? {result : Except Abort (List Token)} {isWritten : Bool}
    (h : isWritten? result = some isWritten) :
    ∃ code, result = .ok code ∧ (formatted? code).isSome = isWritten := by
  cases result with
  | error abort => cases h
  | ok code => exact ⟨code, rfl, isSome_formatted? h⟩

theorem exists_content_of_isWritten? {result : Except Abort (List Token)}
    (h : isWritten? result = some true) : ∃ content, (result >>= formattedFile) = .ok content := by
  obtain ⟨code, rfl, hcode⟩ := exists_isFormatted? h
  obtain ⟨content, hcontent⟩ := Option.isSome_iff_exists.mp hcode
  exact ⟨content, formattedFile_eq_ok.mpr hcontent⟩

theorem formattedFile_of_isWritten?_eq_false {result : Except Abort (List Token)}
    (h : isWritten? result = some false) :
    (result >>= formattedFile) = .error (.broken .noLayout) := by
  obtain ⟨code, rfl, hcode⟩ := exists_isFormatted? h
  have hnone : formatted? code = none := by
    simpa using hcode
  change formattedFile code = _
  rw [formattedFile, hnone]

/-- Whether the files of all entities are written, so far as the lexemes of their code tell. -/
def areEntitiesWritten (options : Options) (schema : Resolution) : Bool :=
  schema.entities.all fun entity ↦ isWritten? (entityCode options entity) == some true

/-- Whether the files of all packages are written, so far as the lexemes of their code tell. -/
def arePackagesWritten (options : Options) (schema : Resolution) : Bool :=
  schema.packages.all fun package ↦
    isWritten? (packageCode options package (entitiesOf schema package)
      (servicesOf schema package)) == some true

/-! ## Paths -/

def modulePath (directory module : String) : String :=
  directory ++ module ++ ".rs"

theorem entityPath_eq (entity : Entity) :
    entityPath entity = modulePath (handlerDirectory entity.package) (snakeCase entity.name) :=
  rfl

theorem packagePath_eq (package : String) :
    packagePath package = modulePath (handlerDirectory package) "mod" := by
  rw [packagePath, modulePath, String.append_assoc]
  rfl

/-- A directory of handlers ends with a slash. -/
theorem exists_handlerDirectory (package : String) :
    ∃ parent, (handlerDirectory package).toList = parent ++ ['/'] := by
  rw [handlerDirectory]
  split
  · exact ⟨"handler".toList, by decide⟩
  · rw [String.toList_append]
    exact ⟨_ ++ "/handler".toList, by rw [List.append_assoc]; rfl⟩

/-- The path of a module whose name is without slashes determines its directory and its name. -/
theorem modulePath_inj {package other module name : String} (hmodule : '/' ∉ module.toList)
    (hname : '/' ∉ name.toList) :
    modulePath (handlerDirectory package) module = modulePath (handlerDirectory other) name ↔
      handlerDirectory package = handlerDirectory other ∧ module = name := by
  refine ⟨fun h ↦ ?_, fun ⟨hdirectory, hequal⟩ ↦ by rw [hdirectory, hequal]⟩
  obtain ⟨parent, hparent⟩ := exists_handlerDirectory package
  obtain ⟨otherParent, hotherParent⟩ := exists_handlerDirectory other
  have hlists := congrArg String.toList h
  simp only [modulePath, String.toList_append, hparent, hotherParent, List.append_assoc,
    List.cons_append, List.nil_append] at hlists
  have hslash {text : String} (htext : '/' ∉ text.toList) : '/' ∉ text.toList ++ ".rs".toList := by
    rw [List.mem_append, not_or]
    exact ⟨htext, by decide⟩
  have hsplit := congrArg (Text.splitLast? '/') hlists
  rw [Text.splitLast?_append_cons (hslash hmodule), Text.splitLast?_append_cons (hslash hname),
    Option.some.injEq, Prod.mk.injEq] at hsplit
  refine ⟨String.toList_injective ?_, String.toList_injective (List.append_cancel_right hsplit.2)⟩
  rw [hparent, hotherParent, hsplit.1]

theorem slash_notMem_mod : '/' ∉ "mod".toList := by
  decide

variable {schema : Resolution}

theorem nodup_packages (schema : Resolution) : schema.packages.Nodup :=
  (List.mergeSort_perm _ _).nodup_iff.mpr (nodup_eraseDups _)

theorem mem_packages {package : String} :
    package ∈ schema.packages ↔ ∃ entity ∈ schema.entities, entity.package = package := by
  rw [Resolution.packages, List.mem_mergeSort, List.mem_eraseDups, List.mem_map]

theorem mem_entitiesOf {package : String} {entity : Entity} :
    entity ∈ entitiesOf schema package ↔ entity ∈ schema.entities ∧ entity.package = package := by
  rw [entitiesOf, List.mem_filter, decide_eq_true_iff]

/-- The entities of distinct packages are the entities that belong to one of them. -/
theorem flatMap_entitiesOf_perm {packages : List String} (h : packages.Nodup) :
    (packages.flatMap (entitiesOf schema)).Perm
      (schema.entities.filter fun entity ↦ packages.contains entity.package) := by
  induction packages with
  | nil => simp
  | cons first rest ih =>
    rw [List.nodup_cons] at h
    have hfirst :
        (schema.entities.filter fun entity ↦ (first :: rest).contains entity.package).filter
          (·.package = first) = entitiesOf schema first := by
      rw [entitiesOf, List.filter_filter]
      refine List.filter_congr fun entity _ ↦ ?_
      by_cases heq : entity.package = first <;> simp [heq]
    have hrest :
        (schema.entities.filter fun entity ↦ (first :: rest).contains entity.package).filter
          (fun entity ↦ !decide (entity.package = first)) =
          schema.entities.filter fun entity ↦ rest.contains entity.package := by
      rw [List.filter_filter]
      refine List.filter_congr fun entity _ ↦ ?_
      by_cases heq : entity.package = first
      · simp [heq, h.1]
      · simp [heq]
    rw [List.flatMap_cons]
    refine ((ih h.2).append_left _).trans ?_
    rw [← hfirst, ← hrest]
    exact List.filter_append_perm _ _

theorem pathsOf_perm (schema : Resolution) :
    (pathsOf schema schema.packages).Perm
      (schema.entities.map entityPath ++ schema.packages.map packagePath) := by
  have hentities : (schema.packages.flatMap (entitiesOf schema)).Perm schema.entities := by
    refine (flatMap_entitiesOf_perm (nodup_packages schema)).trans (List.Perm.of_eq ?_)
    refine List.filter_eq_self.mpr fun entity hentity ↦ ?_
    simpa using mem_packages.mpr ⟨entity, hentity, rfl⟩
  have hpaths := List.flatMap_append_perm schema.packages
    (fun package ↦ (entitiesOf schema package).map entityPath) (fun package ↦ [packagePath package])
  rw [← List.map_flatMap, ← List.map_eq_flatMap] at hpaths
  exact hpaths.symm.trans ((hentities.map entityPath).append_right _)

/-- A run writes one file for each entity and one for each package. -/
theorem length_written {schema : Resolution} {written : List (String × List Token)}
    (h : written.map Prod.fst = pathsOf schema schema.packages) :
    written.length = schema.entities.length + schema.packages.length := by
  have hlength := congrArg List.length h
  rw [List.length_map, (pathsOf_perm schema).length_eq] at hlength
  rw [hlength, List.length_append, List.length_map, List.length_map]

def isKeyword (word : String) : Bool :=
  keywords.contains word || unmarkable.contains word

/-- The names of packages and entities lead to distinct files and to names of modules. -/
structure HasClearNames (schema : Resolution) : Prop where
  /-- Packages with the same directory are the same. -/
  package_eq : ∀ package ∈ schema.packages, ∀ other ∈ schema.packages,
    handlerDirectory package = handlerDirectory other → package = other
  /-- Entities of one package that are spelt alike in snake case are the same. -/
  entity_eq : ∀ entity ∈ schema.entities, ∀ other ∈ schema.entities,
    entity.package = other.package → snakeCase entity.name = snakeCase other.name → entity = other
  /-- No entity is spelt like a keyword in snake case. -/
  isKeyword_eq_false : ∀ entity ∈ schema.entities, isKeyword (snakeCase entity.name) = false

/-- When the paths of a schema are distinct. -/
theorem nodup_paths_iff (hentities : schema.entities.Nodup) :
    (pathsOf schema schema.packages).Nodup ↔
      (∀ package ∈ schema.packages, ∀ other ∈ schema.packages,
        handlerDirectory package = handlerDirectory other → package = other) ∧
      (∀ entity ∈ schema.entities, ∀ other ∈ schema.entities,
        entity.package = other.package → snakeCase entity.name = snakeCase other.name →
          entity = other) ∧
      ∀ entity ∈ schema.entities, snakeCase entity.name ≠ "mod" := by
  rw [(pathsOf_perm schema).nodup_iff, List.nodup_append,
    List.nodup_map_iff_inj_on hentities, List.nodup_map_iff_inj_on (nodup_packages schema)]
  simp only [entityPath_eq, packagePath_eq, modulePath_inj (Text.slash_notMem_snakeCase _)
    (Text.slash_notMem_snakeCase _), modulePath_inj slash_notMem_mod slash_notMem_mod]
  constructor
  · rintro ⟨hentity, hpackage, hdisjoint⟩
    refine ⟨fun package hp other ho h ↦ hpackage package hp other ho ⟨h, trivial⟩,
      fun entity he other ho hsame hsnake ↦ hentity entity he other ho ⟨hsame ▸ rfl, hsnake⟩, ?_⟩
    intro entity he hmod
    refine hdisjoint _ (List.mem_map_of_mem he) _
      (List.mem_map_of_mem (mem_packages.mpr ⟨entity, he, rfl⟩)) ?_
    rw [entityPath_eq, packagePath_eq, hmod]
  · rintro ⟨hpackage, hentity, hmod⟩
    refine ⟨fun entity he other ho ⟨hdirectory, hsnake⟩ ↦ ?_,
      fun package hp other ho ⟨hdirectory, _⟩ ↦ hpackage package hp other ho hdirectory, ?_⟩
    · exact hentity entity he other ho (hpackage _ (mem_packages.mpr ⟨entity, he, rfl⟩) _
        (mem_packages.mpr ⟨other, ho, rfl⟩) hdirectory) hsnake
    · intro path hpath other hother heq
      obtain ⟨entity, he, rfl⟩ := List.mem_map.mp hpath
      obtain ⟨package, -, rfl⟩ := List.mem_map.mp hother
      rw [entityPath_eq, packagePath_eq,
        modulePath_inj (Text.slash_notMem_snakeCase _) slash_notMem_mod] at heq
      exact hmod entity he heq.2

/-! ## Declared modules -/

/-- The modules that code declares before anything else. -/
def leadingModules : List Token → List String
  | .plain "pub" :: .plain "mod" :: .name module :: .plain ";" :: rest =>
    module :: leadingModules rest
  | _ => []

/-- The modules that a file declares behind the attributes that every file begins with. -/
def declaredModules (code : List Token) : List String :=
  leadingModules (code.drop (fileHeader "").length)

theorem legal_eq_ok {tokens code : List Token} :
    legal tokens = .ok code ↔ illegalName? tokens = none ∧ tokens = code := by
  rw [legal]
  split
  · next h => simp [h]
  · next h => simp [h]

theorem length_fileHeader (title : String) :
    (fileHeader title).length = (fileHeader "").length := by
  simp [fileHeader, fileDoc, squared, quoted]

theorem leadingModules_moduleCode (entities : List Entity) (rest : List Token) :
    leadingModules (entities.flatMap moduleCode ++ rest) =
      entities.map (fun entity ↦ snakeCase entity.name) ++ leadingModules rest := by
  have hpub : code "pub mod" = [.plain "pub", .plain "mod"] := by decide
  have hend : code ";" = [.plain ";"] := by decide
  induction entities with
  | nil => rfl
  | cons entity entities ih =>
    rw [List.flatMap_cons, List.append_assoc, moduleCode, hpub, hend]
    simp only [name, List.cons_append, List.nil_append, leadingModules, List.map_cons]
    exact congrArg _ ih

theorem leadingModules_of_head? {tokens : List Token} {token : Token}
    (hhead : tokens.head? = some token) (htoken : token ≠ .plain "pub") :
    leadingModules tokens = [] := by
  unfold leadingModules
  split
  · cases hhead
    exact absurd rfl htoken
  · rfl

/-- The file of a package declares one module for each of its entities. -/
theorem declaredModules_packageCode {options : Options} {package : String}
    {entities : List Entity} {services : List Service} {content : List Token}
    (h : packageCode options package entities services = .ok content) :
    declaredModules content = entities.map fun entity ↦ snakeCase entity.name := by
  rw [packageCode] at h
  obtain ⟨module, -, h⟩ := bind_eq_ok.mp h
  obtain ⟨served, -, h⟩ := bind_eq_ok.mp h
  obtain ⟨modules, hmodules, h⟩ := bind_eq_ok.mp h
  obtain ⟨-, rfl⟩ := legal_eq_ok.mp hmodules
  rw [← Except.ok.inj h]
  have huse : (code "use std::sync::Arc; use crud_runtime::tonic::").head? =
      some (.plain "use") := by
    decide
  have hhead (rest : List Token) :
      (code "use std::sync::Arc; use crud_runtime::tonic::" ++ rest).head? =
        some (.plain "use") := by
    rw [List.head?_append, huse]
    rfl
  have huseNotPub : Token.plain "use" ≠ .plain "pub" := by
    decide
  simp only [declaredModules, List.append_assoc]
  rw [← length_fileHeader (" gRPC handlers for package `" ++ package ++ "`")]
  simp only [List.drop_left]
  rw [leadingModules_moduleCode, leadingModules_of_head? (hhead _) huseNotPub, List.append_nil]

/-! ## Faithful output -/

/--
An output has exactly one file for each resolved entity and each of their packages, with the code
made for it, and the file of a package declares each entity once, as the module of its file.
-/
structure Output.IsFaithful (options : Options) (schema : Resolution) (output : Output) : Prop where
  nodup_paths : (output.files.map Prod.fst).Nodup
  length_files : output.files.length = schema.entities.length + schema.packages.length
  entity_file : ∀ entity ∈ schema.entities, ∃ content,
    entityFile options entity = .ok content ∧
      output.files.lookup (entityPath entity) = some content
  package_file : ∀ package ∈ schema.packages, ∃ code content,
    packageCode options package (entitiesOf schema package) (servicesOf schema package) =
        .ok code ∧
      formattedFile code = .ok content ∧
      output.files.lookup (packagePath package) = some content ∧
      ∀ entity ∈ entitiesOf schema package, ∃ module,
        (declaredModules code).count module = 1 ∧ isKeyword module = false ∧
          modulePath (handlerDirectory package) module = entityPath entity

variable {files : List Descriptor.File} {requested : List String} {options : Options}
  {schema : Resolution} {output : Output}

theorem generate_cases (hschema : resolve files requested = .ok schema)
    (h : generate files requested options = .ok output) :
    ∃ written, packageFiles options schema schema.packages = .ok written ∧
      output.files = putFiles [] written := by
  rw [generate, hschema] at h
  exact ofSchema_cases h

/-- The output of a run under clear names is faithful. -/
theorem isFaithful_of_hasClearNames (hschema : resolve files requested = .ok schema)
    (houtput : generate files requested options = .ok output) (hclear : HasClearNames schema) :
    output.IsFaithful options schema := by
  obtain ⟨written, hwritten, hfiles⟩ := generate_cases hschema houtput
  obtain ⟨hpaths, hpackages⟩ := packageFiles_cases hwritten
  have hentities : schema.entities.Nodup := (nodup_keys hschema).of_map
  have hnodup : (written.map Prod.fst).Nodup := by
    rw [hpaths, nodup_paths_iff hentities]
    refine ⟨hclear.package_eq, hclear.entity_eq, fun entity hentity hmod ↦ ?_⟩
    have hkeyword := hclear.isKeyword_eq_false entity hentity
    rw [hmod] at hkeyword
    exact absurd hkeyword (by decide)
  have hlookup {path : String} {content : List Token} (hmem : (path, content) ∈ written) :
      output.files.lookup path = some content := by
    rw [hfiles, lookup_putFiles, List.append_nil]
    refine lookup_of_mem ?_ (List.mem_reverse.mpr hmem)
    rwa [List.map_reverse, List.nodup_reverse]
  refine ⟨?_, ?_, fun entity hentity ↦ ?_, fun package hpackage ↦ ?_⟩
  · rw [hfiles]
    exact (isOrdered_putFiles List.Pairwise.nil).imp ne_of_lt
  · rw [hfiles, length_putFiles_iff.mpr hnodup, length_written hpaths]
  · have hpackage := mem_packages.mpr ⟨entity, hentity, rfl⟩
    obtain ⟨content, hcontent, hmem⟩ :=
      (hpackages _ hpackage).1 entity (mem_entitiesOf.mpr ⟨hentity, rfl⟩)
    exact ⟨content, hcontent, hlookup hmem⟩
  · obtain ⟨content, hcontent, hmem⟩ := (hpackages package hpackage).2
    obtain ⟨code, hcode, hformatted⟩ := packageFile_cases hcontent
    refine ⟨code, content, hcode, hformatted, hlookup hmem, fun entity hentity ↦ ?_⟩
    have hof := mem_entitiesOf.mp hentity
    refine ⟨snakeCase entity.name, ?_, hclear.isKeyword_eq_false entity hof.1, ?_⟩
    · rw [declaredModules_packageCode hcode]
      refine List.count_eq_one_of_mem ?_ (List.mem_map_of_mem hentity)
      refine (List.nodup_map_iff_inj_on (hentities.filter _)).mpr fun e he other hother hsnake ↦ ?_
      obtain ⟨he, hsame⟩ := mem_entitiesOf.mp he
      obtain ⟨hother, hotherSame⟩ := mem_entitiesOf.mp hother
      exact hclear.entity_eq e he other hother (hsame.trans hotherSame.symm) hsnake
    · rw [entityPath_eq, hof.2]

/-- A faithful output of a run shows that the names are clear. -/
theorem hasClearNames_of_isFaithful (hschema : resolve files requested = .ok schema)
    (houtput : generate files requested options = .ok output)
    (hfaithful : output.IsFaithful options schema) : HasClearNames schema := by
  obtain ⟨written, hwritten, hfiles⟩ := generate_cases hschema houtput
  obtain ⟨hpaths, -⟩ := packageFiles_cases hwritten
  have hlength : (putFiles [] written).length = written.length := by
    rw [← hfiles, hfaithful.length_files, length_written hpaths]
  have hnodup := length_putFiles_iff.mp hlength
  rw [hpaths, nodup_paths_iff (nodup_keys hschema).of_map] at hnodup
  refine ⟨hnodup.1, hnodup.2.1, fun entity hentity ↦ ?_⟩
  obtain ⟨code, -, hcode, -, -, hdeclared⟩ :=
    hfaithful.package_file _ (mem_packages.mpr ⟨entity, hentity, rfl⟩)
  obtain ⟨module, hcount, hkeyword, hpath⟩ :=
    hdeclared entity (mem_entitiesOf.mpr ⟨hentity, rfl⟩)
  -- The module is one of those that the code declares, so its name is without slashes.
  have hmem : module ∈ declaredModules code := List.count_pos_iff.mp (by omega)
  rw [declaredModules_packageCode hcode] at hmem
  obtain ⟨other, -, rfl⟩ := List.mem_map.mp hmem
  rw [entityPath_eq,
    modulePath_inj (Text.slash_notMem_snakeCase _) (Text.slash_notMem_snakeCase _)] at hpath
  exact hpath.2 ▸ hkeyword

/--
A run succeeds with a file for each entity and package, and with every entity declared as the
module of its file, if and only if it succeeds at all, distinct packages with entities have
distinct directories, the entities of a package are spelt differently in snake case, and none of
them is spelt like a keyword. In particular no entity may be spelt `mod`.
-/
theorem generate_isFaithful_iff (hschema : resolve files requested = .ok schema) :
    (∃ output, generate files requested options = .ok output ∧
        output.IsFaithful options schema) ↔
      (∃ output, generate files requested options = .ok output) ∧ HasClearNames schema := by
  constructor
  · rintro ⟨output, houtput, hfaithful⟩
    exact ⟨⟨output, houtput⟩, hasClearNames_of_isFaithful hschema houtput hfaithful⟩
  · rintro ⟨⟨output, houtput⟩, hclear⟩
    exact ⟨output, houtput, isFaithful_of_hasClearNames hschema houtput hclear⟩

/-- A run succeeds if the lexemes of the code of its files tell that they are written. -/
theorem exists_output_of_areWritten (hstrict : options.strict = false)
    (hschema : resolve files requested = .ok schema)
    (hentities : areEntitiesWritten options schema = true)
    (hpackages : arePackagesWritten options schema = true) :
    ∃ output, generate files requested options = .ok output := by
  refine (exists_output_iff hstrict hschema).mpr fun package hpackage ↦ ⟨?_, ?_⟩
  · intro entity hentity
    have hwritten := List.all_eq_true.mp hentities entity (mem_entitiesOf.mp hentity).1
    exact exists_content_of_isWritten? (eq_of_beq hwritten)
  · have hwritten := List.all_eq_true.mp hpackages package hpackage
    exact exists_content_of_isWritten? (eq_of_beq hwritten)

/-! ## Files with one entity -/

/-- A file with an entity of the given name, which can be looked up by its id. -/
def recordFile (name : String) : Descriptor.File where
  name := "records.proto"
  package := "game"
  messages :=
    [.mk name [⟨"id", .optional, .string, "", false, false⟩] [] [],
      .mk "LookupRequest" [⟨"id", .optional, .string, "", false, false⟩] [] []]
  enums := []
  services :=
    [⟨"Records", [⟨"Get" ++ name, ".game.LookupRequest", ".game." ++ name, false, false⟩]⟩]

theorem exists_record (name : String)
    (h : (resolve [recordFile name] ["records.proto"]).toOption.map
      (fun schema ↦ schema.entities.map Entity.key) = some [("game", name)]) :
    ∃ schema entity, resolve [recordFile name] ["records.proto"] = .ok schema ∧
      schema.entities = [entity] ∧ entity.key = ("game", name) :=
  exists_entity h

/-- The run on such a file succeeds if the lexemes of the code tell so, file by file. -/
theorem generate_recordFile {name : String}
    (hentities : (resolve [recordFile name] ["records.proto"]).toOption.map
      (areEntitiesWritten .default) = some true)
    (hpackages : (resolve [recordFile name] ["records.proto"]).toOption.map
      (arePackagesWritten .default) = some true) :
    ∃ output, generate [recordFile name] ["records.proto"] .default = .ok output := by
  obtain ⟨schema, hschema, hwritten⟩ := exists_resolve hentities
  obtain ⟨same, hsame, hroots⟩ := exists_resolve hpackages
  obtain rfl : schema = same := Except.ok.inj (hschema.symm.trans hsame)
  exact exists_output_of_areWritten rfl hschema hwritten hroots

theorem generate_itemFile :
    ∃ output, generate [recordFile "Item"] ["records.proto"] .default = .ok output :=
  generate_recordFile (by decide +kernel) (by decide +kernel)

/-- The run on an entity called `Mod` succeeds, and its output is not faithful. -/
theorem not_isFaithful_mod :
    ∃ schema output, resolve [recordFile "Mod"] ["records.proto"] = .ok schema ∧
      generate [recordFile "Mod"] ["records.proto"] .default = .ok output ∧
      ¬ output.IsFaithful .default schema := by
  obtain ⟨schema, entity, hschema, hentities, hkey⟩ :=
    exists_record "Mod" (by decide +kernel)
  obtain ⟨output, houtput⟩ :
      ∃ output, generate [recordFile "Mod"] ["records.proto"] .default = .ok output :=
    generate_recordFile (by decide +kernel) (by decide +kernel)
  refine ⟨schema, output, hschema, houtput, fun hfaithful ↦ ?_⟩
  have hclear := hasClearNames_of_isFaithful hschema houtput hfaithful
  have hkeyword := hclear.isKeyword_eq_false entity (hentities ▸ List.mem_cons_self)
  rw [(Prod.mk.inj hkey).2] at hkeyword
  exact absurd hkeyword (by decide +kernel)

/-- The run on an entity called `Item` succeeds, and its output is faithful. -/
theorem isFaithful_item :
    ∃ schema output, resolve [recordFile "Item"] ["records.proto"] = .ok schema ∧
      generate [recordFile "Item"] ["records.proto"] .default = .ok output ∧
      output.IsFaithful .default schema := by
  obtain ⟨schema, entity, hschema, hentities, hkey⟩ :=
    exists_record "Item" (by decide +kernel)
  have hclear : HasClearNames schema := by
    refine ⟨?_, ?_, ?_⟩
    · simp [mem_packages, hentities]
    · simp [hentities]
    · rw [hentities]
      intro other hother
      rw [List.mem_singleton.mp hother, (Prod.mk.inj hkey).2]
      decide +kernel
  obtain ⟨output, houtput, hfaithful⟩ :=
    (generate_isFaithful_iff hschema).mpr ⟨generate_itemFile, hclear⟩
  exact ⟨schema, output, hschema, houtput, hfaithful⟩

end ProtoCrud.Generate
