import ProtoCrud.Proofs.Generate.AnswerText
import ProtoCrud.Proofs.Generate.EntityText

/-!
# What a run renders

A run that succeeds has made the code of every entity of a package and of its file. The code of an
entity has the functions of its operations in it. The file of a package is a head and the
implementations of all services that do not stream, each made of one function for every method.
-/

namespace ProtoCrud.Generate

open Code Handler Schema

section Results

variable {ε α β γ : Type} {f : α → Except ε β} {l : List α} {values : List β}

theorem mapM_eq_ok :
    l.mapM f = .ok values ↔ List.Forall₂ (fun a value ↦ f a = .ok value) l values := by
  induction l generalizing values with
  | nil =>
    rw [List.mapM_nil, List.forall₂_nil_left_iff]
    exact ⟨fun h ↦ (Except.ok.inj h).symm, fun h ↦ h ▸ rfl⟩
  | cons a rest ih =>
    rw [List.mapM_cons, bind_eq_ok, List.forall₂_cons_left_iff]
    constructor
    · rintro ⟨value, hvalue, h⟩
      obtain ⟨others, hothers, h⟩ := bind_eq_ok.mp h
      exact ⟨value, others, hvalue, ih.mp hothers, (Except.ok.inj h).symm⟩
    · rintro ⟨value, others, hvalue, hothers, rfl⟩
      exact ⟨value, hvalue, bind_eq_ok.mpr ⟨others, ih.mpr hothers, rfl⟩⟩

theorem exists_of_mem_mapM (h : l.mapM f = .ok values) {value : β} (hmem : value ∈ values) :
    ∃ a ∈ l, f a = .ok value :=
  exists_mem_of_forall₂ (R := fun value a ↦ f a = .ok value) (mapM_eq_ok.mp h).flip hmem

theorem exists_mem_of_mapM (h : l.mapM f = .ok values) {a : α} (hmem : a ∈ l) :
    ∃ value ∈ values, f a = .ok value :=
  exists_mem_of_forall₂ (mapM_eq_ok.mp h) hmem

/-- What each value shows of where it comes from, all of them show. -/
theorem map_eq_of_mapM (h : l.mapM f = .ok values) {p : α → γ} {q : β → γ}
    (hshow : ∀ a value, f a = .ok value → q value = p a) : values.map q = l.map p := by
  have hall := mapM_eq_ok.mp h
  induction hall with
  | nil => rfl
  | cons hfirst hrest ih =>
    rw [List.map_cons, List.map_cons, hshow _ _ hfirst, ih (mapM_eq_ok.mpr hrest)]

end Results

/-- The function of a served method, with its types and its body as code. -/
structure MethodFunction where
  method : Method
  input : List Token
  output : List Token
  body : List Token

def MethodFunction.code (function : MethodFunction) : List Token :=
  Code.code "async fn" ++ name (fieldIdentifier function.method.name) ++
    parenthesised (Code.code "&self, request: Request" ++ angled function.input) ++
    Code.code "-> Result<Response" ++ angled function.output ++ Code.code ", Status>" ++
    braced function.body

structure Implementation where
  service : Service
  functions : List MethodFunction

def Implementation.code (implementation : Implementation) : List Token :=
  Code.code "#[tonic::async_trait] impl<S: Store + 'static>" ++
    (Code.code "proto::" ++ name (Text.snakeCase implementation.service.name ++ "_server") ++
      Code.code "::" ++ name implementation.service.name) ++
    Code.code "for Handler<S>" ++ braced (implementation.functions.flatMap MethodFunction.code)

def functionOf (options : Options) (service : Service) (entities : List Entity)
    (method : Method) : Except ParameterError MethodFunction := do
  let input ← messageType options method.input service.package
  let output ← messageType options method.output service.package
  pure ⟨method, input, output, bodyCode method output (body service entities method)⟩

def implementationOf (options : Options) (entities : List Entity) (service : Service) :
    Except ParameterError Implementation := do
  let functions ← service.methods.mapM (functionOf options service entities)
  pure ⟨service, functions⟩

/-- The implementations in the file of a package: one for each service that does not stream. -/
def implementationsOf (options : Options) (schema : Resolution) (package : String) :
    Except ParameterError (List Implementation) :=
  ((servicesOf schema package).filter (!·.hasStreaming)).mapM
    (implementationOf options (entitiesOf schema package))

/-- The code of the file of a package in front of the implementations. -/
def packageHead (package : String) (entities : List Entity) (module : List Token) : List Token :=
  fileHeader (" gRPC handlers for package `" ++ package ++ "`") ++ entities.flatMap moduleCode ++
    code "use std::sync::Arc; use crud_runtime::tonic::" ++
    braced (code "self, Request, Response, Status") ++
    code "; use crud_runtime::" ++ braced (code "IdGenerator, Store, UuidGenerator") ++
    code "; use" ++ module ++ code "as proto;" ++ handlerCode ++ handlerFunctions

section Package

variable {options : Options} {service : Service} {entities : List Entity} {method : Method}
  {function : MethodFunction} {implementation : Implementation}

theorem functionOf_cases (h : functionOf options service entities method = .ok function) :
    function.method = method ∧
      messageType options method.input service.package = .ok function.input ∧
      messageType options method.output service.package = .ok function.output ∧
      function.body = bodyCode method function.output (body service entities method) := by
  obtain ⟨input, hinput, h⟩ := bind_eq_ok.mp h
  obtain ⟨output, houtput, h⟩ := bind_eq_ok.mp h
  cases h
  exact ⟨rfl, hinput, houtput, rfl⟩

theorem implementationOf_cases
    (h : implementationOf options entities service = .ok implementation) :
    implementation.service = service ∧
      service.methods.mapM (functionOf options service entities) =
        .ok implementation.functions := by
  obtain ⟨functions, hfunctions, h⟩ := bind_eq_ok.mp h
  cases h
  exact ⟨rfl, hfunctions⟩

theorem methodCode_cases {text : List Token}
    (h : methodCode options service entities method = .ok text) :
    ∃ function, functionOf options service entities method = .ok function ∧
      text = function.code := by
  obtain ⟨identifier, hidentifier, h⟩ := bind_eq_ok.mp h
  obtain ⟨input, hinput, h⟩ := bind_eq_ok.mp h
  obtain ⟨output, houtput, h⟩ := bind_eq_ok.mp h
  obtain ⟨written, hwritten, h⟩ := bind_eq_ok.mp h
  obtain ⟨-, rfl⟩ := legal_eq_ok.mp hidentifier
  obtain ⟨-, rfl⟩ := legal_eq_ok.mp hwritten
  refine ⟨⟨method, input, output, bodyCode method output (body service entities method)⟩, ?_, ?_⟩
  · rw [functionOf, withParameter_eq_ok.mp hinput, withParameter_eq_ok.mp houtput]
    rfl
  · rw [← Except.ok.inj h, MethodFunction.code]

theorem methodsCode_cases {methods : List Method} {text : List Token}
    (h : methodsCode options service entities methods = .ok text) :
    ∃ functions, methods.mapM (functionOf options service entities) = .ok functions ∧
      text = functions.flatMap MethodFunction.code := by
  induction methods generalizing text with
  | nil =>
    cases h
    exact ⟨[], rfl, rfl⟩
  | cons method rest ih =>
    obtain ⟨first, hfirst, h⟩ := bind_eq_ok.mp h
    obtain ⟨others, hothers, h⟩ := bind_eq_ok.mp h
    cases h
    obtain ⟨function, hfunction, rfl⟩ := methodCode_cases hfirst
    obtain ⟨functions, hfunctions, rfl⟩ := ih hothers
    refine ⟨function :: functions, ?_, rfl⟩
    exact mapM_eq_ok.mpr (.cons hfunction (mapM_eq_ok.mp hfunctions))

theorem servicesCode_cases {services : List Service} {text : List Token}
    (h : servicesCode options entities services = .ok text) :
    ∃ implementations, services.mapM (implementationOf options entities) = .ok implementations ∧
      text = implementations.flatMap Implementation.code := by
  induction services generalizing text with
  | nil =>
    cases h
    exact ⟨[], rfl, rfl⟩
  | cons service rest ih =>
    obtain ⟨first, hfirst, h⟩ := bind_eq_ok.mp h
    obtain ⟨others, hothers, h⟩ := bind_eq_ok.mp h
    cases h
    obtain ⟨trait, htrait, hfirst⟩ := bind_eq_ok.mp hfirst
    obtain ⟨-, rfl⟩ := legal_eq_ok.mp htrait
    obtain ⟨methods, hmethods, hfirst⟩ := bind_eq_ok.mp hfirst
    cases hfirst
    obtain ⟨functions, hfunctions, rfl⟩ := methodsCode_cases hmethods
    obtain ⟨implementations, himplementations, rfl⟩ := ih hothers
    have hservice : implementationOf options entities service = .ok ⟨service, functions⟩ := by
      rw [implementationOf, hfunctions]
      rfl
    refine ⟨⟨service, functions⟩ :: implementations, ?_, rfl⟩
    exact mapM_eq_ok.mpr (.cons hservice (mapM_eq_ok.mp himplementations))

/-- The file of a package is its head with the implementations of its services. -/
theorem packageCode_cases {schema : Resolution} {package : String} {root : List Token}
    (h : packageCode options package (entitiesOf schema package) (servicesOf schema package) =
      .ok root) :
    ∃ module implementations,
      options.module package = .ok module ∧
      implementationsOf options schema package = .ok implementations ∧
      root = packageHead package (entitiesOf schema package) module ++
        implementations.flatMap Implementation.code := by
  obtain ⟨module, hmodule, h⟩ := bind_eq_ok.mp h
  obtain ⟨served, hserved, h⟩ := bind_eq_ok.mp h
  obtain ⟨modules, hmodules, h⟩ := bind_eq_ok.mp h
  obtain ⟨-, rfl⟩ := legal_eq_ok.mp hmodules
  obtain ⟨implementations, himplementations, rfl⟩ := servicesCode_cases hserved
  exact ⟨module, implementations, withParameter_eq_ok.mp hmodule, himplementations,
    (Except.ok.inj h).symm⟩

end Package

/-- Whether a run makes the code of all entities of a package and of its file, which is given. -/
structure RendersPackage (options : Options) (schema : Resolution) (package : String)
    (root : List Token) : Prop where
  entities : ∀ entity ∈ entitiesOf schema package, ∃ text, entityCode options entity = .ok text
  root : packageCode options package (entitiesOf schema package) (servicesOf schema package) =
    .ok root

section Rendered

variable {options : Options} {schema : Resolution} {package : String} {root : List Token}

/-- A run that succeeds renders every package with a resolved entity. -/
theorem exists_rendersPackage_of_eq_ok {output : Output}
    (h : ofSchema options schema = .ok output) (hpackage : package ∈ schema.packages) :
    ∃ root, RendersPackage options schema package root := by
  obtain ⟨written, hwritten, -⟩ := ofSchema_cases h
  obtain ⟨hentities, content, hcontent, -⟩ := (packageFiles_cases hwritten).2 package hpackage
  obtain ⟨root, hroot, -⟩ := packageFile_cases hcontent
  refine ⟨root, fun entity hentity ↦ ?_, hroot⟩
  obtain ⟨file, hfile, -⟩ := hentities entity hentity
  obtain ⟨text, htext, -⟩ := bind_eq_ok.mp hfile
  exact ⟨text, htext⟩

/-- A package whose code nothing keeps from being made is rendered. -/
theorem exists_rendersPackage_of_not_failsToWrite
    (h : ∀ abort, ¬ FailsToWrite options schema abort) (hpackage : package ∈ schema.packages) :
    ∃ root, RendersPackage options schema package root := by
  obtain ⟨root, hroot⟩ := (endsOnlyFor_packageCode hpackage).exists_eq_ok h
  exact ⟨root, fun entity hentity ↦
    (endsOnlyFor_entityCode (mem_entitiesOf.mp hentity).1).exists_eq_ok h, hroot⟩

/-- In a package that is rendered, the types of all functions can be spelled. -/
theorem RendersPackage.exists_messageType (h : RendersPackage options schema package root)
    {service : Service} (hservice : service ∈ servicesOf schema package)
    (hserved : service.hasStreaming = false) {method : Method}
    (hmethod : method ∈ service.methods) :
    (∃ tokens, messageType options method.input package = .ok tokens) ∧
      ∃ tokens, messageType options method.output package = .ok tokens := by
  obtain ⟨-, implementations, -, himplementations, -⟩ := packageCode_cases h.root
  obtain ⟨implementation, -, hof⟩ := exists_mem_of_mapM himplementations
    (List.mem_filter.mpr ⟨hservice, by rw [hserved]; rfl⟩)
  obtain ⟨function, -, hfunction⟩ := exists_mem_of_mapM (implementationOf_cases hof).2 hmethod
  obtain ⟨-, hinput, houtput, -⟩ := functionOf_cases hfunction
  rw [of_decide_eq_true (List.mem_filter.mp hservice).2] at hinput houtput
  exact ⟨⟨_, hinput⟩, ⟨_, houtput⟩⟩

/-- A schema whose packages are all rendered has types that can be spelled. -/
theorem SpellsType.exists_messageType {type : TypeRef} (h : SpellsType schema type package)
    (hrenders : ∀ package ∈ schema.packages, ∃ root, RendersPackage options schema package root) :
    ∃ tokens, messageType options type package = .ok tokens := by
  cases h with
  | request hentity hoperation =>
    obtain ⟨_, hrun⟩ := hrenders _ (mem_packages.mpr ⟨_, hentity, rfl⟩)
    obtain ⟨_, htext⟩ := hrun.entities _ (mem_entitiesOf.mpr ⟨hentity, rfl⟩)
    obtain ⟨file, hfile, -⟩ := exists_entityText htext
    obtain ⟨function, -, hfunction⟩ := hfile.exists_function hoperation
    exact ⟨function.request, hfunction.request_eq⟩
  | input hservice hserved hpackage hmethod =>
    obtain ⟨_, hrun⟩ := hrenders _ hpackage
    exact (hrun.exists_messageType (List.mem_filter.mpr ⟨hservice, by simp⟩) hserved hmethod).1
  | output hservice hserved hpackage hmethod =>
    obtain ⟨_, hrun⟩ := hrenders _ hpackage
    exact (hrun.exists_messageType (List.mem_filter.mpr ⟨hservice, by simp⟩) hserved hmethod).2

/-- A schema whose packages are all rendered has paths that can be spelled. -/
theorem not_failsToSpell_of_rendersPackage
    (hrenders : ∀ package ∈ schema.packages, ∃ root, RendersPackage options schema package root)
    (reason : ParameterError) : ¬ FailsToSpell options schema reason := by
  intro hfails
  cases hfails with
  | module hpackage herror =>
    obtain ⟨_, hrun⟩ := hrenders _ hpackage
    obtain ⟨module, _, hmodule, -⟩ := packageCode_cases hrun.root
    rw [hmodule] at herror
    cases herror
  | type htype herror =>
    obtain ⟨tokens, htokens⟩ := htype.exists_messageType hrenders
    rw [htokens] at herror
    cases herror

end Rendered

end ProtoCrud.Generate
