import ProtoCrud.Command.Program
import ProtoCrud.Files.Tree

/-!
# Rehearsing a program

A rehearsal runs a program in surroundings that are held in memory: a tree of files, and a schema
compiler whose answer is known beforehand. It notes what is printed and which tasks the compiler
gets.
-/

namespace ProtoCrud.Command

open Code (Token)
open Wire (Bytes)

inductive Content where
  | raw (bytes : Bytes)
  | code (tokens : List Token)

def Content.bytes : Content → Bytes
  | .raw bytes => bytes
  | .code tokens => Wire.bytesOfText (Code.write tokens)

/-- The surroundings of a program. -/
structure Rehearsal where
  tree : Files.Tree Content
  compiler : CompilerAnswer
  /-- The lines that have been printed. -/
  printed : List String := []
  /-- The tasks that the compiler has got. -/
  compilations : List Compilation := []

namespace Rehearsal

/-- The surroundings with another tree, if there is one, and whether there is. -/
def attempt (rehearsal : Rehearsal) : Option (Files.Tree Content) → Bool × Rehearsal
  | some tree => (true, { rehearsal with tree })
  | none => (false, rehearsal)

def run (rehearsal : Rehearsal) : Program → Ending × Rehearsal
  | .exit ending => (ending, rehearsal)
  | .compile task next =>
    let noted := match rehearsal.compiler with
      | .notRun => rehearsal
      | _ => { rehearsal with compilations := rehearsal.compilations ++ [task] }
    noted.run (next rehearsal.compiler)
  | .read path next => rehearsal.run (next ((rehearsal.tree.read? path).map Content.bytes))
  | .print line next => { rehearsal with printed := rehearsal.printed ++ [line] }.run next
  | .makeDirectories path next =>
    let (made, rehearsal) := rehearsal.attempt (rehearsal.tree.makeDirectories? path)
    rehearsal.run (next made)
  | .write path content next =>
    let (written, rehearsal) := rehearsal.attempt (rehearsal.tree.write? path (.code content))
    rehearsal.run (next written)

def written (rehearsal : Rehearsal) : List (Files.Location × List Token) :=
  rehearsal.tree.files.filterMap fun
    | (location, .code tokens) => some (location, tokens)
    | _ => none

end Rehearsal

end ProtoCrud.Command
