import ProtoCrud.Command.Arguments
import ProtoCrud.Command.Targets
import ProtoCrud.Descriptor.Wire
import ProtoCrud.Generate.Plugin

/-!
# What the command does

The command reads a set of schema files, or has a schema compiler make one, generates the code and
writes it file by file. Its program is a tree of steps, each of which asks its surroundings for
something and continues with the answer. The first step that fails ends the program; what was
written before stays.
-/

namespace ProtoCrud.Command

open Code (Token)
open Wire (Bytes)

/-- Why the command fails. -/
inductive Failure where
  | noInput
  /-- The schema compiler cannot be run. -/
  | noCompiler
  /-- The schema compiler reports a failure. -/
  | compiler
  | unreadableSet (path : String)
  | undecodableSet
  | unwritable (path : String)
  | generate (error : Generate.GenerateError)
  deriving DecidableEq

def Failure.messageWith (reason : Generate.PathReason) : Failure → String
  | .noInput => "no input files and no descriptor set given"
  | .noCompiler => "failed to run protoc"
  | .compiler => "protoc failed"
  | .unreadableSet path => "failed to read descriptor set " ++ path
  | .undecodableSet => "invalid descriptor set"
  | .unwritable path => "failed to write " ++ path
  | .generate error => error.messageWith reason

def Failure.message : Failure → String :=
  messageWith .leftOut

inductive Ending where
  | done
  | failed (failure : Failure)
  /-- The code cannot be written. -/
  | brokenOff (flaw : Generate.Flaw)
  deriving DecidableEq

def Ending.exitCode : Ending → UInt8
  | .done => 0
  | .failed _ => 1
  | .brokenOff _ => 101

def Refusal.exitCode : Refusal → UInt8
  | .help => 0
  | .badUsage => 2

/-- The exit code of a plugin that gives no answer. -/
def noResponseCode : Generate.NoResponse → UInt8
  | .undecodable => 1
  | .broken _ => 101

structure Compilation where
  includes : List String
  inputs : List String
  deriving DecidableEq

/-- The arguments of the schema compiler, when it is to write its result to a path. -/
def Compilation.arguments (task : Compilation) (out : String) : List String :=
  ["--include_imports", "--descriptor_set_out", out] ++
    (if task.includes.isEmpty then ["-I."] else task.includes.map ("-I" ++ ·)) ++ task.inputs

/-- What comes of a task for the schema compiler. -/
inductive CompilerAnswer where
  | notRun
  | failed
  /-- The compiler reports success; it may have written nothing all the same. -/
  | succeeded (set : Option Bytes)

inductive Program where
  | exit (ending : Ending)
  | compile (task : Compilation) (next : CompilerAnswer → Program)
  | read (path : String) (next : Option Bytes → Program)
  | print (line : String) (next : Program)
  /-- Makes the directories on a path, and learns whether they are there. -/
  | makeDirectories (path : String) (next : Bool → Program)
  /-- Writes a file, and learns whether it is there. -/
  | write (path : String) (content : List Token) (next : Bool → Program)

namespace Program

def fail (failure : Failure) : Program :=
  .exit (.failed failure)

def list (directory : String) : List (String × List Token) → Program
  | [] => .exit .done
  | (path, _) :: rest => .print (Files.join directory path) (list directory rest)

/-- Writes files, with their paths seen from a directory. -/
def writeAll (directory : String) : List (String × List Token) → Program
  | [] => .exit .done
  | (path, content) :: rest =>
    let path := Files.join directory path
    .makeDirectories (Files.directoryOf path) fun
      | false => fail (.unwritable (Files.directoryOf path))
      | true => .write path content fun
        | false => fail (.unwritable path)
        | true => writeAll directory rest

/-- Generates code from a set of files. -/
def ofFiles (arguments : Arguments) (files : List Descriptor.File) : Program :=
  let names := targets files arguments.inputs arguments.includes
  match Generate.generate files names arguments.options with
  | .error (.failed error) => fail (.generate error)
  | .error (.broken flaw) => .exit (.brokenOff flaw)
  | .ok output =>
    if arguments.dryRun then list arguments.outDirectory output.files
    else writeAll arguments.outDirectory output.files

/-- Generates code from a set of files on the wire. -/
def ofBytes (arguments : Arguments) (bytes : Bytes) : Program :=
  match Descriptor.decodeFileSet? bytes with
  | some files => ofFiles arguments files
  | none => fail .undecodableSet

def ofArguments (arguments : Arguments) : Program :=
  match arguments.descriptorSet, arguments.inputs with
  | some path, _ => .read path fun
    | some bytes => ofBytes arguments bytes
    | none => fail (.unreadableSet path)
  | none, [] => fail .noInput
  | none, inputs => .compile ⟨arguments.includes, inputs⟩ fun
    | .notRun => fail .noCompiler
    | .failed => fail .compiler
    | .succeeded none => fail (.unreadableSet "descriptor_set.desc")
    | .succeeded (some bytes) => ofBytes arguments bytes

end Program

end ProtoCrud.Command
