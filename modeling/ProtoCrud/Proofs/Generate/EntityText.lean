import Mathlib.Data.List.Forall2
import ProtoCrud.Proofs.Generate.Ending
import ProtoCrud.Proofs.Generate.HandlerText
import ProtoCrud.Sql.Codec

/-!
# The code of an entity, read back

Code that is read back as the text of a file has the signature of every function in it, and what the
functions and the record do follows from their tokens alone. Whatever code a run makes for an entity
can be read so, and what is read are the plans of the entity.
-/

namespace ProtoCrud.Generate

open Code Handler Schema
open Sql (EnumCodec)

structure HandlerFunction where
  title : String
  name : String
  /-- The parameter has a name that the body may use. -/
  usesRequest : Bool
  request : List Token
  result : List Token
  body : HandlerBody

def HandlerFunction.signature (function : HandlerFunction) : List Token :=
  code "pub async fn" ++ Code.name function.name ++ parenthesised (code "&self," ++
    code (if function.usesRequest then "request" else "_request") ++ code ":" ++ function.request)

/-- Code has the signature of a function, and its body does what that of the function does. -/
def HandlerFunction.IsReadFrom (function : HandlerFunction) (typeName : String)
    (text : List Token) : Prop :=
  ∃ body : List Token,
    text = doc function.title ++ function.signature ++ code "-> Result" ++
      angled (function.result ++ code ", HandlerError") ++ braced body ∧
    (Scanner.handlerBody typeName function.usesRequest).whole? body = some function.body

structure EntityText where
  entityName : String
  module : List Token
  record : RecordText
  functions : List HandlerFunction

/-- Code has the parts of a file, one after the other. -/
def EntityText.IsReadFrom (file : EntityText) (text : List Token) : Prop :=
  ∃ (record : List Token) (functions : List (List Token)),
    text = fileHeader (" CRUD handlers for `" ++ file.entityName ++ "`") ++
      code "use crud_runtime::crud::" ++
      braced (code "self, Changes, NewRow, Record, TableSpec") ++
      code "; use crud_runtime::" ++
      braced (code "ColumnKind, EnumCodec, HandlerError, ListQuery, Page," ++
        code "Row, RowError, SqlValue, Store") ++
      code "; use super::Handler; use" ++ file.module ++ code "as proto;" ++ record ++
      code "impl<S: Store> Handler<S>" ++ braced functions.flatten ∧
    Scanner.record.whole? record = some file.record ∧
    List.Forall₂ (fun function text ↦ function.IsReadFrom file.record.typeName text)
      file.functions functions

/-- A file has a function with this name, this type of its request and this body. -/
def EntityText.Defines (file : EntityText) (name : String) (request : List Token)
    (body : HandlerBody) : Prop :=
  ∃ function ∈ file.functions, function.name = name ∧ function.request = request ∧
    function.body = body

/-- The codec that a record defines under a name. -/
def RecordText.codec? (record : RecordText) (codec : String) : Option EnumCodec :=
  (record.codecs.find? (·.name = codec)).bind fun constant ↦
    EnumCodec.ofVariants? constant.enumName constant.variants

def resultText (kind : MethodKind) (typeName : String) : List Token :=
  match kind with
  | .delete => code "()"
  | .list => code "Page<proto::" ++ name typeName ++ code ">"
  | _ => code "proto::" ++ name typeName

def HandlerFunction.ofOperation (entity : Entity) (kind : MethodKind) (operation : CrudMethod)
    (request : List Token) : HandlerFunction where
  title := " `" ++ operation.method.name ++ "`: " ++ summary kind
  name := fieldIdentifier operation.method.name
  usesRequest := Generate.usesRequest entity kind operation.request
  request := request
  result := resultText kind (Text.camelCase entity.name)
  body := .ofOperation entity kind operation.request

structure HandlerFunction.IsOf (function : HandlerFunction) (options : Options) (entity : Entity)
    (kind : MethodKind) (operation : CrudMethod) : Prop where
  request_eq : messageType options operation.method.input entity.package = .ok function.request
  eq_ofOperation : function = .ofOperation entity kind operation function.request

/-- A file is that of an entity: it has the plans of its record and a function per operation. -/
structure EntityText.IsOf (file : EntityText) (options : Options) (entity : Entity) : Prop where
  name_eq : file.entityName = entity.name
  module_eq : options.module entity.package = .ok file.module
  record_eq : file.record = .ofEntity entity
  functions : List.Forall₂ (fun operation function ↦
      HandlerFunction.IsOf function options entity operation.1 operation.2)
    entity.methods.toList file.functions

theorem exists_mem_of_forall₂ {α β : Type} {R : α → β → Prop} {l : List α} {values : List β}
    (h : List.Forall₂ R l values) {a : α} (hmem : a ∈ l) : ∃ value ∈ values, R a value := by
  induction h with
  | nil => cases hmem
  | cons hfirst _ ih =>
    rcases List.mem_cons.mp hmem with rfl | hmem
    · exact ⟨_, List.mem_cons_self, hfirst⟩
    · obtain ⟨value, hvalue, hrest⟩ := ih hmem
      exact ⟨value, List.mem_cons_of_mem _ hvalue, hrest⟩

section Read

variable {file : EntityText} {function : HandlerFunction} {text : List Token}

theorem HandlerFunction.IsReadFrom.signature_infix {typeName : String}
    (h : function.IsReadFrom typeName text) : function.signature <:+: text := by
  obtain ⟨body, rfl, -⟩ := h
  refine ⟨doc function.title, code "-> Result" ++
    angled (function.result ++ code ", HandlerError") ++ braced body, ?_⟩
  simp only [List.append_assoc]

/-- The signatures of all functions of a file stand in its code. -/
theorem EntityText.IsReadFrom.signature_infix (h : file.IsReadFrom text)
    (hfunction : function ∈ file.functions) : function.signature <:+: text := by
  obtain ⟨record, functions, rfl, -, hreads⟩ := h
  obtain ⟨own, hown, hread⟩ := exists_mem_of_forall₂ hreads hfunction
  have hbraced : functions.flatten <:+: braced functions.flatten :=
    ⟨[.plain "\x7b"], [.plain "\x7d"], rfl⟩
  have hwithin : own <:+: functions.flatten := List.infix_of_mem_flatten hown
  exact ((hread.signature_infix.trans hwithin).trans hbraced).trans
    (List.suffix_append _ _).isInfix

end Read

section Entity

variable {options : Options} {entity : Entity} {text : List Token}

theorem isReadFrom_operationCode (entity : Entity) (kind : MethodKind) (operation : CrudMethod)
    (request : List Token) :
    (HandlerFunction.ofOperation entity kind operation request).IsReadFrom
      (Text.camelCase entity.name) (operationCode entity kind operation request) := by
  have hbody := Scanner.takes_operationBody entity kind operation.request
  have hresult : resultCode kind (entityType entity) =
      resultText kind (Text.camelCase entity.name) := by
    cases kind <;> rfl
  refine ⟨operationBody entity kind operation.request, ?_, hbody.whole?_eq⟩
  simp only [operationCode, hresult, HandlerFunction.signature, List.append_assoc]
  rfl

theorem exists_handlerFunctions {operations : List (MethodKind × CrudMethod)}
    (h : operationsCode options entity operations = .ok text) :
    ∃ functions texts, text = List.flatten texts ∧
      List.Forall₂ (fun operation function ↦
        HandlerFunction.IsOf function options entity operation.1 operation.2) operations
        functions ∧
      List.Forall₂ (fun function text ↦
        HandlerFunction.IsReadFrom function (Text.camelCase entity.name) text) functions texts := by
  induction operations generalizing text with
  | nil =>
    cases h
    exact ⟨[], [], rfl, .nil, .nil⟩
  | cons operation rest ih =>
    obtain ⟨request, hrequest, h⟩ := bind_eq_ok.mp h
    obtain ⟨first, hfirst, h⟩ := bind_eq_ok.mp h
    obtain ⟨others, hothers, h⟩ := bind_eq_ok.mp h
    cases h
    obtain ⟨-, rfl⟩ := legal_eq_ok.mp hfirst
    obtain ⟨functions, texts, rfl, hall, hreads⟩ := ih hothers
    exact ⟨_ :: functions, _ :: texts, rfl, .cons ⟨withParameter_eq_ok.mp hrequest, rfl⟩ hall,
      .cons (isReadFrom_operationCode entity operation.1 operation.2 request) hreads⟩

/-- The code of an entity is read back as its plans. -/
theorem exists_entityText (h : entityCode options entity = .ok text) :
    ∃ file : EntityText, file.IsOf options entity ∧ file.IsReadFrom text := by
  obtain ⟨module, hmodule, h⟩ := bind_eq_ok.mp h
  obtain ⟨record, hrecord, h⟩ := bind_eq_ok.mp h
  obtain ⟨operations, hoperations, h⟩ := bind_eq_ok.mp h
  obtain ⟨-, rfl⟩ := legal_eq_ok.mp hrecord
  obtain ⟨functions, texts, rfl, hall, hreads⟩ := exists_handlerFunctions hoperations
  refine ⟨⟨entity.name, module, .ofEntity entity, functions⟩,
    ⟨rfl, withParameter_eq_ok.mp hmodule, rfl, hall⟩, _, texts, ?_,
    (Scanner.takes_record entity).whole?_eq, hreads⟩
  exact (Except.ok.inj h).symm

theorem EntityText.IsOf.exists_function {file : EntityText} (h : file.IsOf options entity)
    {kind : MethodKind} {operation : CrudMethod}
    (hoperation : entity.methods.at? kind = some operation) :
    ∃ function ∈ file.functions, function.IsOf options entity kind operation :=
  exists_mem_of_forall₂ h.functions (Slots.mem_toList.mpr hoperation)

theorem EntityText.IsOf.exists_defines {file : EntityText} (h : file.IsOf options entity)
    {kind : MethodKind} {operation : CrudMethod}
    (hoperation : entity.methods.at? kind = some operation) :
    ∃ request, messageType options operation.method.input entity.package = .ok request ∧
      file.Defines (fieldIdentifier operation.method.name) request
        (.ofOperation entity kind operation.request) := by
  obtain ⟨function, hfunction, hof⟩ := h.exists_function hoperation
  refine ⟨function.request, hof.request_eq, function, hfunction, ?_⟩
  rw [hof.eq_ofOperation]
  exact ⟨rfl, rfl, rfl⟩

/-- The code of an entity defines a function for every operation, which does what it plans. -/
theorem exists_defines (h : entityCode options entity = .ok text) {kind : MethodKind}
    {operation : CrudMethod} (hoperation : entity.methods.at? kind = some operation) :
    ∃ file request, EntityText.IsReadFrom file text ∧ file.record = .ofEntity entity ∧
      messageType options operation.method.input entity.package = .ok request ∧
      file.Defines (fieldIdentifier operation.method.name) request
        (.ofOperation entity kind operation.request) := by
  obtain ⟨file, hfile, hread⟩ := exists_entityText h
  obtain ⟨request, hrequest, hdefines⟩ := hfile.exists_defines hoperation
  exact ⟨file, request, hread, hfile.record_eq, hrequest, hdefines⟩

end Entity

end ProtoCrud.Generate
