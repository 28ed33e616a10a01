import ProtoCrud.Command.Program

/-!
# The command line

The first argument says how the generator is used: `plugin` answers a schema compiler on the
standard streams, and `generate` reads a set of schema files and writes the generated files. No
schema compiler is run from here, so `generate` wants a set that is compiled already.
-/

namespace ProtoCrud

/-- A step that may fail, and whether it did not. -/
def succeeds (step : IO Unit) : IO Bool := do
  try
    step
    pure true
  catch _ => pure false

def contentOf (path : String) : IO (Option Wire.Bytes) := do
  try
    let content ← IO.FS.readBinFile path
    pure (some content.data.toList)
  catch _ => pure none

def report : Command.Ending → IO Unit
  | .done => pure ()
  | .failed failure => IO.eprintln ("Error: " ++ failure.message)
  | .brokenOff (.illegalIdentifier name) => IO.eprintln ("Error: not an identifier: " ++ name)
  | .brokenOff .noLayout => IO.eprintln "Error: code that cannot be laid out"

def perform : Command.Program → IO UInt32
  | .exit ending => do
    report ending
    pure ending.exitCode.toUInt32
  | .compile _ next => perform (next .notRun)
  | .read path next => do perform (next (← contentOf path))
  | .print line next => do
    IO.println line
    perform next
  | .makeDirectories path next => do perform (next (← succeeds (IO.FS.createDirAll path)))
  | .write path content next => do
    perform (next (← succeeds (IO.FS.writeFile path (Code.write content))))

def generateFiles (arguments : List String) : IO UInt32 :=
  match Command.parse arguments with
  | .ok arguments => perform (.ofArguments arguments)
  | .error refusal => do
    IO.eprintln "usage: generate [OPTIONS] [INPUT]..."
    pure refusal.exitCode.toUInt32

def answerCompiler : IO UInt32 := do
  let request ← (← IO.getStdin).readBinToEnd
  match Generate.respondToBytes request.data.toList with
  | .ok response =>
    (← IO.getStdout).write ⟨response.encode.toArray⟩
    pure 0
  | .error reason => pure (Command.noResponseCode reason).toUInt32

end ProtoCrud

def main : List String → IO UInt32
  | "plugin" :: _ => ProtoCrud.answerCompiler
  | "generate" :: arguments => ProtoCrud.generateFiles arguments
  | _ => do
    IO.eprintln "usage: plugin | generate [OPTIONS] [INPUT]..."
    pure 2
