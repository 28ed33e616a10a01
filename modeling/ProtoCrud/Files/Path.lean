import ProtoCrud.Text.Cut

/-!
# Paths of files

A path is a text with its parts separated by slashes. Two paths are compared by their components:
repeated slashes, a slash at the end and dots behind the first part do not count, while a dot at
the beginning does. Nothing is looked up, so `..` stays as it is.
-/

namespace ProtoCrud.Files

inductive Component where
  /-- The slash that an absolute path begins with. -/
  | root
  /-- The dot that a path begins with. -/
  | here
  | parent
  | name (text : String)
  deriving DecidableEq

def parts (path : String) : List (List Char) :=
  Text.splitAll '/' path.toList

def Component.ofPart? (part : List Char) : Option Component :=
  if part = [] ∨ part = ['.'] then none
  else if part = ['.', '.'] then some .parent
  else some (.name (String.ofList part))

def isAbsolute (path : String) : Bool :=
  path.toList.head? = some '/'

def components (path : String) : List Component :=
  let inner := (parts path).filterMap Component.ofPart?
  if isAbsolute path then .root :: inner
  else if (parts path).head? = some ['.'] then .here :: inner
  else inner

def afterComponents? : (base path : List Component) → Option (List Component)
  | [], path => some path
  | _ :: _, [] => none
  | b :: base, c :: path => if b = c then afterComponents? base path else none

/-- The components of a path below a base; `none` if the path does not lie there. -/
def relative? (path base : String) : Option (List Component) :=
  afterComponents? (components base) (components path)

def joinNames (components : List Component) : String :=
  "/".intercalate <| components.filterMap fun
    | .name text => some text
    | _ => none

/-- A path seen from a directory; an absolute path is the same from everywhere. -/
def join (directory path : String) : String :=
  if isAbsolute path ∨ directory = "" then path
  else if directory.toList.getLast? = some '/' then directory ++ path
  else directory ++ "/" ++ path

/-- The directory of the file that a path names: all but the last part. -/
def directoryOf (path : String) : String :=
  match Text.splitLast? '/' path.toList with
  | some (directory, _) => String.ofList directory
  | none => ""

end ProtoCrud.Files
