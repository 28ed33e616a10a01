import ProtoCrud.Code.Path
import ProtoCrud.Generate.Error

/-!
# Options of a run

The parameter of a plugin request is a list of settings separated by commas. The module of a
package is found by putting the package, with its parts joined by `::`, into a template.
-/

namespace ProtoCrud.Generate

open Code (Token)

structure Options where
  /-- The template of the path of the module that holds the generated types of a package. -/
  modulePath : String
  /-- Whether the run fails if an entity cannot be resolved. -/
  strict : Bool
  deriving DecidableEq

/-- The text in a template that stands for the package. -/
def packagePlace : String := "\x7bpackage\x7d"

/-- The package of the search messages, whose types come with the runtime. -/
def runtimePackage : String := "common"

namespace Options

/-- The options of a run without settings. -/
def default : Options :=
  ⟨"crate::proto::" ++ packagePlace, false⟩

/-- The parts of a package joined by `::`. -/
def packagePath (package : String) : List Char :=
  package.toList.flatMap fun c ↦ if c = '.' then [':', ':'] else [c]

def moduleText (options : Options) (package : String) : String :=
  let filled := match packagePlace.toList with
    | [] => options.modulePath.toList
    | head :: tail => Text.replaceAll head tail (packagePath package) options.modulePath.toList
  String.ofList (Text.dropColonsEnd filled)

def module (options : Options) (package : String) : Except ParameterError (List Token) :=
  if package = runtimePackage then .ok (Code.code "::crud_runtime::proto")
  else
    let text := options.moduleText package
    match Code.path? text with
    | some path => .ok path
    | none => .error (.modulePath text)

/-- The options with one more setting; a key without value is switched on. -/
def set (options : Options) (setting : List Char) : Except ParameterError Options :=
  let (key, value) := match Text.splitFirst? '=' setting with
    | some (key, value) => (String.ofList key, String.ofList value)
    | none => (String.ofList setting, "true")
  if key = "proto_path" then .ok { options with modulePath := value }
  else if key = "strict" then
    if value = "true" then .ok { options with strict := true }
    else if value = "false" then .ok { options with strict := false }
    else .error (.strictValue value)
  else .error (.unknownKey key)

def setAll (options : Options) : List (List Char) → Except ParameterError Options
  | [] => .ok options
  | setting :: rest => do
    let next ← options.set setting
    next.setAll rest

/-- The settings in a parameter: its parts between commas, without blanks around them. -/
def settings (parameter : String) : List (List Char) :=
  ((Text.splitAll ',' parameter.toList).map Text.trimBlank).filter (!·.isEmpty)

/-- Reads a parameter; the template must make a path of a plain package. -/
def parse (parameter : String) : Except ParameterError Options := do
  let options ← default.setAll (settings parameter)
  let _ ← options.module "example"
  pure options

end Options

end ProtoCrud.Generate
