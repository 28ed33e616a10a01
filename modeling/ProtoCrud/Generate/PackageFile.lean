import ProtoCrud.Generate.TypeCode
import ProtoCrud.Handler.Serving

/-!
# The file of a package

It declares the handler of the package, one module for each of its entities, and the services that
the handler serves. A service with a method that streams is left out.
-/

namespace ProtoCrud.Generate

open Code Handler Schema

/-- A count, converted if it is kept in another type than the response has. -/
def countCode (counter : Counter) (type : ScalarType) : List Token :=
  let value := code "page." ++ code counter.name
  if type = counter.type then value
  else
    angled (typeCode type.columnType) ++ code "::try_from" ++ parenthesised value ++
      code ".unwrap_or_default()"

def responseValueCode : ResponseValue → List Token
  | .record => code "Some(record)"
  | .items => code "page.items"
  | .count counter type => countCode counter type
  | .success => code "true"

def responseInitCode (init : ResponseInit) : List Token :=
  name init.field ++ code ":" ++ responseValueCode init.value

def responseCode (type : List Token) : Response → List Token
  | .record => code "record"
  | .nothing => code "()"
  | .default => type ++ code "::default()"
  | .literal inits hasRest =>
    type ++ braced (listed (inits.map responseInitCode) ++
      if hasRest then code "..Default::default()" else [])

/-- The name that holds what the handler of an operation returns. -/
def resultBinding : MethodKind → String
  | .delete => ""
  | .list => "let page ="
  | _ => "let record ="

def bodyCode (method : Method) (outputType : List Token) : Body → List Token
  | .unimplemented =>
    code "let _ = request; Err(Status::unimplemented" ++
      parenthesised (quoted (method.name ++ " is not implemented")) ++ code ")"
  | .delegate kind response =>
    code (resultBinding kind) ++ code "self." ++ name (fieldIdentifier method.name) ++
      code "(request.into_inner()).await?; Ok(Response::new" ++
      parenthesised (responseCode outputType response) ++ code ")"

def methodCode (options : Options) (service : Service) (entities : List Entity)
    (method : Method) : Except Abort (List Token) := do
  let function ← legal (name (fieldIdentifier method.name))
  let inputType ← withParameter (messageType options method.input service.package)
  let outputType ← withParameter (messageType options method.output service.package)
  let body ← legal (bodyCode method outputType (Handler.body service entities method))
  pure (code "async fn" ++ function ++
    parenthesised (code "&self, request: Request" ++ angled inputType) ++
    code "-> Result<Response" ++ angled outputType ++ code ", Status>" ++ braced body)

def methodsCode (options : Options) (service : Service) (entities : List Entity) :
    List Method → Except Abort (List Token)
  | [] => .ok []
  | method :: rest => do
    let first ← methodCode options service entities method
    let others ← methodsCode options service entities rest
    pure (first ++ others)

def serviceCode (options : Options) (entities : List Entity) (service : Service) :
    Except Abort (List Token) := do
  let trait ← legal (code "proto::" ++ name (Text.snakeCase service.name ++ "_server") ++
    code "::" ++ name service.name)
  let methods ← methodsCode options service entities service.methods
  pure (code "#[tonic::async_trait] impl<S: Store + 'static>" ++ trait ++
    code "for Handler<S>" ++ braced methods)

def servicesCode (options : Options) (entities : List Entity) :
    List Service → Except Abort (List Token)
  | [] => .ok []
  | service :: rest => do
    let first ← serviceCode options entities service
    let others ← servicesCode options entities rest
    pure (first ++ others)

def handlerCode : List Token :=
  doc " Serves the CRUD methods of this package over a [`Store`]" ++
    code "pub struct Handler<S>" ++ braced (code "store: S, ids: Arc<dyn IdGenerator>,")

/-- The functions that make a handler and show its store. -/
def handlerFunctions : List Token :=
  code "impl<S: Store> Handler<S>" ++
    braced (doc " Handler minting UUID v4 ids" ++
      code "pub fn new(store: S) -> Self" ++
      braced (code "Self::with_id_generator(store, UuidGenerator)") ++
      doc " Handler minting ids with `ids`" ++
      code "pub fn with_id_generator(store: S, ids: impl IdGenerator + 'static) -> Self" ++
      braced (code "Self" ++ braced (code "store, ids: Arc::new(ids),")) ++
      doc " The backing store" ++
      code "pub fn store(&self) -> &S" ++ braced (code "&self.store"))

def moduleCode (entity : Entity) : List Token :=
  code "pub mod" ++ name (Text.snakeCase entity.name) ++ code ";"

/-- The code of the file of a package with its resolved entities and its services, as it is before
it is formatted. -/
def packageCode (options : Options) (package : String) (entities : List Entity)
    (services : List Service) : Except Abort (List Token) := do
  let module ← withParameter (options.module package)
  let served ← servicesCode options entities (services.filter (!·.hasStreaming))
  let modules ← legal (entities.flatMap moduleCode)
  pure (fileHeader (" gRPC handlers for package `" ++ package ++ "`") ++ modules ++
    code "use std::sync::Arc; use crud_runtime::tonic::" ++
    braced (code "self, Request, Response, Status") ++
    code "; use crud_runtime::" ++ braced (code "IdGenerator, Store, UuidGenerator") ++
    code "; use" ++ module ++ code "as proto;" ++ handlerCode ++ handlerFunctions ++ served)

def packageFile (options : Options) (package : String) (entities : List Entity)
    (services : List Service) : Except Abort (List Token) := do
  formattedFile (← packageCode options package entities services)

end ProtoCrud.Generate
