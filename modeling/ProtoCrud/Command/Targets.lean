import ProtoCrud.Descriptor.Basic
import ProtoCrud.Files.Path

/-!
# Which files of a set are meant

Schema files are known by their paths below the directories in which the schema compiler seeks
them, so an input is taken relative to the first such directory that it lies in.
-/

namespace ProtoCrud.Command

/-- How the names of the files begin that come with every schema compiler. -/
def standardDirectory : String := "google/protobuf/"

/-- Whether a file comes with every schema compiler. -/
def isStandard (name : String) : Bool :=
  (Text.afterStart? standardDirectory.toList name.toList).isSome

/-- The name of the schema file that an input stands for. -/
def targetName (includes : List String) (input : String) : String :=
  Files.joinNames ((includes.findSome? (Files.relative? input)).getD (Files.components input))

/--
The names of the files to generate code for: those of the inputs or, without inputs, all of the
set but the standard ones.
-/
def targets (files : List Descriptor.File) (inputs includes : List String) : List String :=
  if inputs.isEmpty then (files.map (·.name)).filter (!isStandard ·)
  else inputs.map (targetName includes)

end ProtoCrud.Command
