import ProtoCrud.Code.Format
import ProtoCrud.Code.Path
import ProtoCrud.Generate.Options
import ProtoCrud.Schema.Shape
import ProtoCrud.Sql.Column

/-!
# How generated code spells types

Column types have fixed spellings. The type of a message is a path from the handlers of a package:
the types of the package itself lie below the alias `proto`, those of other packages below their
own modules, and the message without fields is the empty tuple.
-/

namespace ProtoCrud.Generate

open Code Schema
open Sql (ColumnKind ColumnType)

def typeCode : ColumnType → List Token
  | .text => code "String"
  | .bytes => code "Vec<u8>"
  | .bool => code "bool"
  | .int32 => code "i32"
  | .int64 => code "i64"
  | .uint32 => code "u32"
  | .uint64 => code "u64"
  | .single => code "f32"
  | .double => code "f64"
  | .timestamp => code "crud_runtime::prost_types::Timestamp"
  | .optional type => code "Option" ++ angled (typeCode type)

def kindCode (kind : ColumnKind) : List Token :=
  code "ColumnKind::" ++ code kind.name

/-- The package of the types that come with every schema compiler. -/
def standardPackage : String := "google.protobuf"

def typePath (text : String) : Except ParameterError (List Token) :=
  match path? text with
  | some path => .ok path
  | none => .error (.typePath text)

/-- The type of a message, as the handlers of a package see it. -/
def messageType (options : Options) (type : TypeRef) (package : String) :
    Except ParameterError (List Token) :=
  if type.fullName = emptyName then .ok (code "()")
  else if type.package = standardPackage then typePath ("crud_runtime::prost_types::" ++ type.path)
  else if type.package = package then typePath ("proto::" ++ type.path)
  else do
    let module ← options.module type.package
    typePath (pathText module ++ "::" ++ type.path)

/-- The type of an entity, as the handlers of its package see it. -/
def entityType (entity : Entity) : List Token :=
  code "proto::" ++ name (Text.camelCase entity.name)

/-- Code, unless a name in it cannot be an identifier. -/
def legal (tokens : List Token) : Except Abort (List Token) :=
  match illegalName? tokens with
  | some name => .error (.broken (.illegalIdentifier name))
  | none => .ok tokens

/-- A part of a run that may find a parameter wrong. -/
def withParameter {α : Type} (result : Except ParameterError α) : Except Abort α :=
  result.mapError fun error ↦ .failed (.parameter error)

def formattedFile (tokens : List Token) : Except Abort (List Token) :=
  match formatted? tokens with
  | some file => .ok file
  | none => .error (.broken .noLayout)

/-- The first lines of every generated file. -/
def fileHeader (title : String) : List Token :=
  fileDoc title ++ fileDoc "" ++ fileDoc " @generated by protoc-gen-crud. Do not edit." ++
    code "#![allow(unused_imports)]#![allow(clippy::all)]"

end ProtoCrud.Generate
