import ProtoCrud.Generate.EntityFile
import ProtoCrud.Generate.PackageFile
import ProtoCrud.Schema.Resolve

/-!
# A run of the generator

A run resolves the schema of the requested files and writes, for every package with a resolved
entity, the file of each entity and the file of the package. Entities that could not be resolved
are reported and do not hold up the others, unless the run is strict.

Two entities may have names of the same spelling in snake case, or one that is spelt like the file
of the package. The file that is written last then counts, and the file of the package is written
after those of its entities.
-/

namespace ProtoCrud.Generate

open Code Schema

structure Output where
  /-- The files by their paths, in the order of the paths. -/
  files : List (String × List Token)
  /-- The entities that could not be resolved. -/
  failures : List Failure
  deriving DecidableEq

/-- The files with one more; a file of the same path is replaced. -/
def putFile (path : String) (content : List Token) :
    List (String × List Token) → List (String × List Token)
  | [] => [(path, content)]
  | (other, existing) :: rest =>
    if path < other then (path, content) :: (other, existing) :: rest
    else if path = other then (path, content) :: rest
    else (other, existing) :: putFile path content rest

theorem lookup_cons_eq_ite (path other : String) (content : List Token)
    (files : List (String × List Token)) :
    ((path, content) :: files).lookup other =
      if other = path then some content else files.lookup other := by
  by_cases h : other = path
  · simp [h]
  · have hne : (other == path) = false := by simpa using h
    simp [List.lookup_cons, hne, h]

theorem lookup_putFile (path other : String) (content : List Token)
    (files : List (String × List Token)) :
    (putFile path content files).lookup other =
      if other = path then some content else files.lookup other := by
  induction files with
  | nil => exact lookup_cons_eq_ite path other content []
  | cons file files ih =>
    obtain ⟨name, existing⟩ := file
    simp only [putFile]
    split
    · exact lookup_cons_eq_ite ..
    · split
      · next hname =>
        subst hname
        simp only [lookup_cons_eq_ite]
        split <;> rfl
      · next hname =>
        simp only [lookup_cons_eq_ite, ih]
        split
        · next h => simp [h, Ne.symm hname]
        · rfl

def handlerDirectory (package : String) : String :=
  if package = "" then "handler/"
  else String.ofList (package.toList.map fun c ↦ if c = '.' then '/' else c) ++ "/handler/"

def entityPath (entity : Entity) : String :=
  handlerDirectory entity.package ++ Text.snakeCase entity.name ++ ".rs"

def packagePath (package : String) : String :=
  handlerDirectory package ++ "mod.rs"

/-- The files of entities with their paths, in the order of the entities. -/
def entityFiles (options : Options) : List Entity → Except Abort (List (String × List Token))
  | [] => .ok []
  | entity :: rest => do
    let content ← entityFile options entity
    let others ← entityFiles options rest
    pure ((entityPath entity, content) :: others)

/-- The files of packages with their paths, in the order in which they are written. -/
def packageFiles (options : Options) (schema : Resolution) :
    List String → Except Abort (List (String × List Token))
  | [] => .ok []
  | package :: rest => do
    let entities := schema.entities.filter (·.package = package)
    let services := schema.services.filter (·.package = package)
    let files ← entityFiles options entities
    let root ← packageFile options package entities services
    let others ← packageFiles options schema rest
    pure (files ++ (packagePath package, root) :: others)

/-- Generates the code for a resolved schema. -/
def ofSchema (options : Options) (schema : Resolution) : Except Abort Output :=
  if options.strict && !schema.failures.isEmpty then .error (.failed (.strict schema.failures))
  else do
    let written ← packageFiles options schema schema.packages
    pure
      { files := written.foldl (fun files (path, content) ↦ putFile path content files) []
        failures := schema.failures }

def generate (files : List Descriptor.File) (requested : List String) (options : Options) :
    Except Abort Output :=
  match resolve files requested with
  | .error name => .error (.failed (.missingFile name))
  | .ok schema => ofSchema options schema

end ProtoCrud.Generate
