import ProtoCrud.Descriptor.Wire
import ProtoCrud.Generate.Run

/-!
# Answering a schema compiler

A plugin gets a request with all files and a parameter, and answers with the generated files or
with the text of what went wrong. Only a request that cannot be read goes without an answer.
-/

namespace ProtoCrud.Generate

open Code (Token)
open Descriptor (PluginRequest)

structure PluginResponse where
  /-- What went wrong, if anything did; there are no files then. -/
  error : Option String
  files : List (String × List Token)
  deriving DecidableEq

/-- The features of the schema language that the plugin knows: fields with explicit presence. -/
def supportedFeatures : Nat := 1

/-- Why a plugin gives no answer. -/
inductive NoResponse where
  /-- The request cannot be read. -/
  | undecodable
  /-- The code cannot be written. -/
  | broken (flaw : Flaw)
  deriving DecidableEq

def requestOutput (request : PluginRequest) : Except Abort Output := do
  let options ← withParameter (Options.parse request.parameter)
  generate request.files request.targets options

/-- The answer to a request, with the reason of a path that cannot be read. -/
def respondWith (reason : PathReason) (request : PluginRequest) :
    Except NoResponse PluginResponse :=
  match requestOutput request with
  | .ok output => .ok ⟨none, output.files⟩
  | .error (.failed error) => .ok ⟨some (error.messageWith reason), []⟩
  | .error (.broken flaw) => .error (.broken flaw)

def respond : PluginRequest → Except NoResponse PluginResponse :=
  respondWith .leftOut

def respondToBytes (bytes : Wire.Bytes) : Except NoResponse PluginResponse :=
  match PluginRequest.decode? bytes with
  | some request => respond request
  | none => .error .undecodable

def PluginResponse.entries (response : PluginResponse) : List Wire.Entry :=
  (response.error.map (Wire.Entry.text 1)).toList ++ [.varint 2 supportedFeatures] ++
    response.files.map fun (path, content) ↦
      .message 15 [.text 1 path, .text 15 (Code.write content)]

def PluginResponse.encode (response : PluginResponse) : Wire.Bytes :=
  Wire.write response.entries

end ProtoCrud.Generate
