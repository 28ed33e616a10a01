import ProtoCrud.Generate.Options

/-!
# Arguments of the command

Options have a long or a short name. The value of an option is attached to its name (`--out=dir`,
`-odir`, `-o=dir`) or is the next argument, which must not look like an option then. Everything
else names an input, and so does all that follows two dashes. The include paths and the inputs may
come many times, every other option once. A path must not be empty.
-/

namespace ProtoCrud.Command

/-- What the command is asked to do. -/
structure Arguments where
  /-- The schema files to generate code for. -/
  inputs : List String := []
  /-- The directories in which schema files are sought. -/
  includes : List String := []
  /-- The file with a set of schema files that are compiled already. -/
  descriptorSet : Option String := none
  /-- The directory that the files are written to. -/
  out : Option String := none
  /-- The template of the path of the module of a package. -/
  modulePath : Option String := none
  strict : Bool := false
  /-- Whether the paths are listed and no file is written. -/
  dryRun : Bool := false
  deriving DecidableEq

inductive Refusal where
  /-- The arguments ask for help. -/
  | help
  | badUsage
  deriving DecidableEq

/-- An option with a value. -/
inductive Setting where
  | includes
  | descriptorSet
  | out
  | modulePath
  deriving DecidableEq

/-- An option without a value. -/
inductive Switch where
  | strict
  | dryRun
  | help
  deriving DecidableEq

/-- The options with a value by their long names. -/
def longSetting? : String → Option Setting
  | "proto-path" => some .includes
  | "descriptor-set" => some .descriptorSet
  | "out" => some .out
  | "proto-path-template" => some .modulePath
  | _ => none

/-- The options without a value by their long names. -/
def longSwitch? : String → Option Switch
  | "strict" => some .strict
  | "dry-run" => some .dryRun
  | "help" => some .help
  | _ => none

/-- The options with a value by their short names. -/
def shortSetting? : Char → Option Setting
  | 'I' => some .includes
  | 'o' => some .out
  | _ => none

namespace Arguments

/-- The directory that the files are written to, or the usual one. -/
def outDirectory (arguments : Arguments) : String :=
  arguments.out.getD "gen"

def options (arguments : Arguments) : Generate.Options :=
  ⟨arguments.modulePath.getD Generate.Options.default.modulePath, arguments.strict⟩

def addInput (arguments : Arguments) (path : String) : Except Refusal Arguments :=
  if path = "" then .error .badUsage
  else .ok { arguments with inputs := arguments.inputs ++ [path] }

def addInputs (arguments : Arguments) : List String → Except Refusal Arguments
  | [] => .ok arguments
  | path :: rest => do
    let next ← arguments.addInput path
    next.addInputs rest

def set (arguments : Arguments) (setting : Setting) (value : String) :
    Except Refusal Arguments :=
  if setting ≠ .modulePath ∧ value = "" then .error .badUsage
  else match setting, arguments with
    | .includes, _ => .ok { arguments with includes := arguments.includes ++ [value] }
    | .descriptorSet, { descriptorSet := none, .. } =>
      .ok { arguments with descriptorSet := some value }
    | .out, { out := none, .. } => .ok { arguments with out := some value }
    | .modulePath, { modulePath := none, .. } => .ok { arguments with modulePath := some value }
    | _, _ => .error .badUsage

def switchOn (arguments : Arguments) : Switch → Except Refusal Arguments
  | .strict => if arguments.strict then .error .badUsage else .ok { arguments with strict := true }
  | .dryRun => if arguments.dryRun then .error .badUsage else .ok { arguments with dryRun := true }
  | .help => .error .help

end Arguments

/-- What an argument is. -/
inductive Word where
  | input (path : String)
  /-- Two dashes: what follows are inputs. -/
  | separator
  | switch (switch : Switch)
  /-- An option with its value, if the value is attached. -/
  | setting (setting : Setting) (value : Option String)
  | unknown
  deriving DecidableEq

/-- What an argument is that starts with two dashes, given what follows them. -/
def longWord (text : List Char) : Word :=
  let (name, value) := match Text.splitFirst? '=' text with
    | some (name, value) => (String.ofList name, some (String.ofList value))
    | none => (String.ofList text, none)
  match longSetting? name, longSwitch? name, value with
  | some setting, _, value => .setting setting value
  | none, some switch, none => .switch switch
  | _, _, _ => .unknown

/-- The value attached to a short name; an equals sign in front of it is left out. -/
def attached? : List Char → Option String
  | [] => none
  | '=' :: value => some (String.ofList value)
  | value => some (String.ofList value)

/-- What an argument is. One dash alone is an input. -/
def word (argument : String) : Word :=
  match argument.toList with
  | ['-', '-'] => .separator
  | '-' :: '-' :: text => longWord text
  | '-' :: c :: rest =>
    match shortSetting? c with
    | some setting => .setting setting (attached? rest)
    | none => if c = 'h' then .switch .help else .unknown
  | _ => .input argument

/-- Reads the arguments that follow those read already. -/
def parseFrom (arguments : Arguments) : List String → Except Refusal Arguments
  | [] => .ok arguments
  | argument :: rest =>
    match word argument, rest with
    | .input path, rest => do parseFrom (← arguments.addInput path) rest
    | .separator, rest => arguments.addInputs rest
    | .switch switch, rest => do parseFrom (← arguments.switchOn switch) rest
    | .setting setting (some value), rest => do parseFrom (← arguments.set setting value) rest
    | .setting setting none, value :: rest =>
      match word value with
      | .input value => do parseFrom (← arguments.set setting value) rest
      | _ => .error .badUsage
    | .setting _ none, [] => .error .badUsage
    | .unknown, _ => .error .badUsage

def parse (arguments : List String) : Except Refusal Arguments :=
  parseFrom {} arguments

end ProtoCrud.Command
