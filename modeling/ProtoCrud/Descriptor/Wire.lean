import ProtoCrud.Descriptor.Basic
import ProtoCrud.Wire.Message

/-!
# Descriptors on the wire

The schema below lists every field of the messages that describe schema files, also of those that
are not kept, since a field with a payload of the wrong kind makes the whole message unreadable.
-/

namespace ProtoCrud.Descriptor

open Wire

/-- The types of messages that describe schema files. -/
inductive MessageType where
  | pluginRequest
  | version
  | fileSet
  | file
  | message
  | extensionRange
  | reservedRange
  | field
  | oneof
  | enum
  | enumValue
  | service
  | method
  | fileOptions
  | messageOptions
  | fieldOptions
  | plainOptions
  | enumOptions
  | enumValueOptions
  | serviceOptions
  | methodOptions
  | uninterpreted
  | namePart
  | sourceInfo
  | location
  deriving DecidableEq

def fieldTable : MessageType → List (Nat × FieldKind MessageType)
  | .pluginRequest =>
    [(1, .text), (2, .text), (3, .message .version), (15, .message .file)]
  | .version => [(1, .varint), (2, .varint), (3, .varint), (4, .text)]
  | .fileSet => [(1, .message .file)]
  | .file =>
    [(1, .text), (2, .text), (3, .text), (4, .message .message), (5, .message .enum),
      (6, .message .service), (7, .message .field), (8, .message .fileOptions),
      (9, .message .sourceInfo), (10, .varints), (11, .varints), (12, .text)]
  | .message =>
    [(1, .text), (2, .message .field), (3, .message .message), (4, .message .enum),
      (5, .message .extensionRange), (6, .message .field), (7, .message .messageOptions),
      (8, .message .oneof), (9, .message .reservedRange), (10, .text)]
  | .extensionRange => [(1, .varint), (2, .varint), (3, .message .plainOptions)]
  | .reservedRange => [(1, .varint), (2, .varint)]
  | .field =>
    [(1, .text), (2, .text), (3, .varint), (4, .varint), (5, .varint), (6, .text), (7, .text),
      (8, .message .fieldOptions), (9, .varint), (10, .text), (17, .varint)]
  | .oneof => [(1, .text), (2, .message .plainOptions)]
  | .enum =>
    [(1, .text), (2, .message .enumValue), (3, .message .enumOptions),
      (4, .message .reservedRange), (5, .text)]
  | .enumValue => [(1, .text), (2, .varint), (3, .message .enumValueOptions)]
  | .service => [(1, .text), (2, .message .method), (3, .message .serviceOptions)]
  | .method =>
    [(1, .text), (2, .text), (3, .text), (4, .message .methodOptions), (5, .varint),
      (6, .varint)]
  | .fileOptions =>
    [(1, .text), (8, .text), (9, .varint), (10, .varint), (11, .text), (16, .varint),
      (17, .varint), (18, .varint), (20, .varint), (23, .varint), (27, .varint), (31, .varint),
      (36, .text), (37, .text), (39, .text), (40, .text), (41, .text), (42, .varint),
      (44, .text), (45, .text), (999, .message .uninterpreted)]
  | .messageOptions =>
    [(1, .varint), (2, .varint), (3, .varint), (7, .varint), (999, .message .uninterpreted)]
  | .fieldOptions =>
    [(1, .varint), (2, .varint), (3, .varint), (5, .varint), (6, .varint), (10, .varint),
      (999, .message .uninterpreted)]
  | .plainOptions => [(999, .message .uninterpreted)]
  | .enumOptions => [(2, .varint), (3, .varint), (999, .message .uninterpreted)]
  | .enumValueOptions => [(1, .varint), (999, .message .uninterpreted)]
  | .serviceOptions => [(33, .varint), (999, .message .uninterpreted)]
  | .methodOptions => [(33, .varint), (34, .varint), (999, .message .uninterpreted)]
  | .uninterpreted =>
    [(2, .message .namePart), (3, .text), (4, .varint), (5, .varint), (6, .fixed64), (7, .bytes),
      (8, .text)]
  | .namePart => [(1, .text), (2, .varint)]
  | .sourceInfo => [(1, .message .location)]
  | .location => [(1, .varints), (2, .varints), (3, .text), (4, .text), (6, .text)]

def schema : Schema MessageType :=
  fun type number ↦ (fieldTable type).lookup number

def Field.ofEntries (entries : List Entry) : Field :=
  { name := text 1 entries
    label := Label.ofNumber (int32 4 entries)
    type := FieldType.ofNumber (int32 5 entries)
    typeName := text 6 entries
    inOneof := (number? 9 entries).isSome
    optional := bool 17 entries }

def EnumValue.ofEntries (entries : List Entry) : EnumValue :=
  ⟨text 1 entries, int32 2 entries⟩

def Enum.ofEntries (entries : List Entry) : Enum :=
  ⟨text 1 entries, (messagesAt 2 entries).map EnumValue.ofEntries⟩

def Message.ofEntries (entries : List Entry) : Message :=
  .mk (text 1 entries)
    ((messagesAt 2 entries).map Field.ofEntries)
    ((messagesAt 3 entries).attach.map fun ⟨inner, _mem⟩ ↦ Message.ofEntries inner)
    ((messagesAt 4 entries).map Enum.ofEntries)
  termination_by weight entries
  decreasing_by exact weight_lt_of_mem_messagesAt _mem

def Method.ofEntries (entries : List Entry) : Method :=
  ⟨text 1 entries, text 2 entries, text 3 entries, bool 5 entries, bool 6 entries⟩

def Service.ofEntries (entries : List Entry) : Service :=
  ⟨text 1 entries, (messagesAt 2 entries).map Method.ofEntries⟩

def File.ofEntries (entries : List Entry) : File :=
  { name := text 1 entries
    package := text 2 entries
    messages := (messagesAt 4 entries).map Message.ofEntries
    enums := (messagesAt 5 entries).map Enum.ofEntries
    services := (messagesAt 6 entries).map Service.ofEntries }

def decodeFileSet? (bytes : Bytes) : Option (List File) :=
  (Wire.decode? schema .fileSet bytes).map fun entries ↦
    (messagesAt 1 entries).map File.ofEntries

def PluginRequest.decode? (bytes : Bytes) : Option PluginRequest :=
  (Wire.decode? schema .pluginRequest bytes).map fun entries ↦
    ⟨textsAt 1 entries, text 2 entries, (messagesAt 15 entries).map File.ofEntries⟩

def placeOf {α : Type} [DecidableEq α] (entries : List α) (entry : α) : Int32 :=
  .ofNat (entries.idxOf entry + 1)

def Field.entries (field : Field) : List Entry :=
  textField 1 field.name ++ int32Field 4 (placeOf Label.all field.label) ++
    int32Field 5 (placeOf FieldType.all field.type) ++ textField 6 field.typeName ++
    (if field.inOneof then [.varint 9 0] else []) ++ boolField 17 field.optional

def Enum.entries (enum : Enum) : List Entry :=
  textField 1 enum.name ++
    enum.values.map fun value ↦ .message 2 (textField 1 value.name ++ int32Field 2 value.number)

mutual
def Message.entries : Message → List Entry
  | .mk name fields nested enums =>
    textField 1 name ++ fields.map (fun field ↦ .message 2 field.entries) ++
      nestedEntries nested ++ enums.map fun enum ↦ .message 4 enum.entries

def nestedEntries : List Message → List Entry
  | [] => []
  | message :: rest => .message 3 message.entries :: nestedEntries rest
end

def Method.entries (method : Method) : List Entry :=
  textField 1 method.name ++ textField 2 method.input ++ textField 3 method.output ++
    boolField 5 method.clientStreaming ++ boolField 6 method.serverStreaming

def Service.entries (service : Service) : List Entry :=
  textField 1 service.name ++ service.methods.map fun method ↦ .message 2 method.entries

def File.entries (file : File) : List Entry :=
  textField 1 file.name ++ textField 2 file.package ++
    file.messages.map (fun message ↦ .message 4 message.entries) ++
    file.enums.map (fun enum ↦ .message 5 enum.entries) ++
    file.services.map fun service ↦ .message 6 service.entries

def encodeFileSet (files : List File) : Bytes :=
  write (files.map fun file ↦ .message 1 file.entries)

end ProtoCrud.Descriptor
