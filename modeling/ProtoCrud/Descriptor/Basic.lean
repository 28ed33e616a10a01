/-!
# Descriptors of schema files

What a schema compiler says about the files it has read: their messages, enums and services. A
member that the compiler left unset has its default here: an empty name, a singular field, a field
of type `double`.
-/

namespace ProtoCrud.Descriptor

/-- How often a field may occur. -/
inductive Label where
  | optional
  | required
  | repeated
  deriving DecidableEq

inductive FieldType where
  | double
  | float
  | int64
  | uint64
  | int32
  | fixed64
  | fixed32
  | bool
  | string
  | group
  | message
  | bytes
  | uint32
  | enum
  | sfixed32
  | sfixed64
  | sint32
  | sint64
  deriving DecidableEq

/-- Labels in the order of their numbers, which start at one. -/
def Label.all : List Label :=
  [.optional, .required, .repeated]

/-- Field types in the order of their numbers, which start at one. -/
def FieldType.all : List FieldType :=
  [.double, .float, .int64, .uint64, .int32, .fixed64, .fixed32, .bool, .string, .group, .message,
    .bytes, .uint32, .enum, .sfixed32, .sfixed64, .sint32, .sint64]

/-- The entry of a list that a number counted from one stands for. -/
def numbered? {α : Type} (entries : List α) (number : Int32) : Option α :=
  if 1 ≤ number then entries[number.toInt.toNat - 1]? else none

/-- The label with a number; an unknown one is `optional`. -/
def Label.ofNumber (number : Int32) : Label :=
  (numbered? Label.all number).getD .optional

/-- The field type with a number; an unknown one is `double`. -/
def FieldType.ofNumber (number : Int32) : FieldType :=
  (numbered? FieldType.all number).getD .double

structure Field where
  name : String
  label : Label
  type : FieldType
  /-- The full name of the type of a message or enum field. -/
  typeName : String
  /-- Whether the field is a member of a choice, a synthetic one included. -/
  inOneof : Bool
  /-- Whether the field was declared with presence. -/
  optional : Bool
  deriving DecidableEq

structure EnumValue where
  name : String
  number : Int32
  deriving DecidableEq

structure Enum where
  name : String
  values : List EnumValue
  deriving DecidableEq

inductive Message where
  | mk (name : String) (fields : List Field) (nested : List Message) (enums : List Enum)
  deriving Inhabited

namespace Message

def name : Message → String
  | mk name _ _ _ => name

def fields : Message → List Field
  | mk _ fields _ _ => fields

def nested : Message → List Message
  | mk _ _ nested _ => nested

def enums : Message → List Enum
  | mk _ _ _ enums => enums

end Message

structure Method where
  name : String
  /-- The full name of the request message. -/
  input : String
  /-- The full name of the response message. -/
  output : String
  clientStreaming : Bool
  serverStreaming : Bool
  deriving DecidableEq

structure Service where
  name : String
  methods : List Method
  deriving DecidableEq

structure File where
  name : String
  package : String
  messages : List Message
  enums : List Enum
  services : List Service

/-- What a schema compiler asks of a plugin. -/
structure PluginRequest where
  /-- The names of the files to generate code for. -/
  targets : List String
  parameter : String
  /-- The files to generate code for and all files they depend on. -/
  files : List File

end ProtoCrud.Descriptor
