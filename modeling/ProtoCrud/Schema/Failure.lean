/-!
# Why an entity cannot be resolved
-/

namespace ProtoCrud.Schema

/-- What keeps an entity from being resolved. -/
inductive Reason where
  | undefined
  /-- A method refers to an entity that no message defines. -/
  | referencedOnly (method : String)
  | repeatedField (field : String)
  | oneofMember (field : String)
  | messageField (field type : String)
  | groupField (field : String)
  | idNotString
  | notTimestamp (field : String)
  | notString (field : String)
  | enumNotFound (enum field : String)
  | enumWithoutValues (enum : String)
  | noId
  | requestNotFound (type : String)
  | responseNotFound (type : String)
  | requestWithoutId (request : String)
  /-- A request field has another type than the entity field of the same name. -/
  | typeMismatch (request field entity : String)
  | responseWithoutEntity (response entity : String)
  deriving DecidableEq

def Reason.message : Reason → String
  | .undefined => "has no message definition"
  | .referencedOnly method => "referenced by `" ++ method ++ "` but has no message definition"
  | .repeatedField field => "repeated field `" ++ field ++ "` is not supported"
  | .oneofMember field => "oneof member `" ++ field ++ "` is not supported"
  | .messageField field type =>
    "message field `" ++ field ++ "` of type `" ++ type ++ "` is not supported"
  | .groupField field => "group field `" ++ field ++ "` is not supported"
  | .idNotString => "`id` must be a plain string"
  | .notTimestamp field => "`" ++ field ++ "` must be a google.protobuf.Timestamp"
  | .notString field => "`" ++ field ++ "` must be a string"
  | .enumNotFound enum field => "enum `" ++ enum ++ "` of `" ++ field ++ "` not found"
  | .enumWithoutValues enum => "enum `" ++ enum ++ "` has no values"
  | .noId => "has no `id` field"
  | .requestNotFound type => "request `" ++ type ++ "` not found"
  | .responseNotFound type => "response `" ++ type ++ "` not found"
  | .requestWithoutId request => "`" ++ request ++ "` has no string `id` field"
  | .typeMismatch request field entity =>
    "`" ++ request ++ "." ++ field ++ "` does not match the type of `" ++ entity ++ "." ++ field ++
      "`"
  | .responseWithoutEntity response entity =>
    "response `" ++ response ++ "` carries no `" ++ entity ++ "` field"

/-- An entity that could not be resolved. -/
structure Failure where
  entity : String
  reason : Reason
  deriving DecidableEq

/-- The name of the entity and the reason. -/
def Failure.message (failure : Failure) : String :=
  failure.entity ++ ": " ++ failure.reason.message

end ProtoCrud.Schema
