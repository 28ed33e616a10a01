import ProtoCrud.Schema.Failure

/-!
# Why code cannot be generated

A run fails as a whole if a file is missing, a parameter is wrong or, in a strict run, an entity
cannot be resolved. A name that would have to become an identifier and cannot is no failure that a
caller is told of; it breaks the run off.
-/

namespace ProtoCrud.Generate

inductive ParameterError where
  /-- The value of `strict` is no truth value. -/
  | strictValue (value : String)
  | unknownKey (key : String)
  /-- The path of the module of a package is no path. -/
  | modulePath (path : String)
  /-- The path of the type of a message is no path. -/
  | typePath (path : String)
  deriving DecidableEq

/-- What a reader of paths says of a text that is no path; its words may be left out. -/
abbrev PathReason := String → Option String

def PathReason.leftOut : PathReason :=
  fun _ ↦ none

def PathReason.explain (reason : PathReason) (path : String) : String :=
  "`" ++ path ++ "`" ++ (reason path).elim "" (": " ++ ·)

def ParameterError.message (reason : PathReason) : ParameterError → String
  | .strictValue value => "strict expects true or false, got `" ++ value ++ "`"
  | .unknownKey key => "unknown parameter `" ++ key ++ "`"
  | .modulePath path => "invalid proto_path " ++ reason.explain path
  | .typePath path => "invalid type path " ++ reason.explain path

/-- Why a run fails. -/
inductive GenerateError where
  | missingFile (name : String)
  | parameter (error : ParameterError)
  /-- Entities that cannot be resolved, in a strict run. -/
  | strict (failures : List Schema.Failure)
  deriving DecidableEq

/-- The text of a failure, with the reason of a path that cannot be read. -/
def GenerateError.messageWith (reason : PathReason) : GenerateError → String
  | .missingFile name => "file descriptor not found: " ++ name
  | .parameter error => "invalid parameter: " ++ error.message reason
  | .strict failures =>
    toString failures.length ++ " entit" ++ (if failures.length = 1 then "y" else "ies") ++
      " failed to generate: " ++ "; ".intercalate (failures.map (·.message))

def GenerateError.message : GenerateError → String :=
  messageWith .leftOut

/-- What keeps code from being written. -/
inductive Flaw where
  /-- A name cannot become an identifier. -/
  | illegalIdentifier (text : String)
  /-- A file holds code that can be read and not laid out. -/
  | noLayout
  deriving DecidableEq

/-- Why a run ends without code. -/
inductive Abort where
  | failed (error : GenerateError)
  | broken (flaw : Flaw)
  deriving DecidableEq

end ProtoCrud.Generate
