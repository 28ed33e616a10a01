import Mathlib.Data.List.Count
import ProtoCrud.Proofs.Generate.LegalCode
import ProtoCrud.Proofs.Schema.Marking

/-!
# What the file of a package serves

The file of a package implements every service without streaming methods, with one function for each
method. The handler functions are made from the operations of the entities, while the bodies of the
functions come from the bindings of the services, by names. Both go back to the marks that the walk
has left: a body calls a handler function if and only if one is made from the same method. A service
with a streaming method is left out, and the operations that its methods have taken with it.
-/

namespace ProtoCrud.Generate

open Code Handler Schema
open Descriptor (File)
open Text (isPlainName)

section Bodies

variable {index : TypeIndex} {targets : List File} {schema : Resolution} {package : String}
  {service : Service} {method : Method} {kind : MethodKind}

/-- The entities of a package are found by their names. -/
theorem find?_entitiesOf (hkeys : (schema.entities.map Entity.key).Nodup) {name : String}
    {entity : Entity} :
    (entitiesOf schema package).find? (·.name = name) = some entity ↔
      entity ∈ entitiesOf schema package ∧ entity.name = name := by
  constructor
  · intro hfind
    exact ⟨List.mem_of_find?_eq_some hfind, by simpa using List.find?_some hfind⟩
  · rintro ⟨hentity, rfl⟩
    have hsome : ((entitiesOf schema package).find? (·.name = entity.name)).isSome = true :=
      List.find?_isSome.mpr ⟨entity, hentity, by simp⟩
    obtain ⟨found, hfound⟩ := Option.isSome_iff_exists.mp hsome
    have hmem := mem_entitiesOf.mp (List.mem_of_find?_eq_some hfound)
    have hname : found.name = entity.name := by simpa using List.find?_some hfound
    obtain ⟨hown, hpackage⟩ := mem_entitiesOf.mp hentity
    have hkey : found.key = entity.key := Prod.ext (hmem.2.trans hpackage.symm) hname
    rw [hfound, List.inj_on_of_nodup_map hkeys hmem.1 hown hkey]

/-- What a method of a service without two methods of one name is delegated to was made from it. -/
theorem performs_of_body (hschema : schema.Reflects index targets)
    (hkeys : (schema.entities.map Entity.key).Nodup)
    (hservice : service ∈ servicesOf schema package)
    (hnames : (service.methods.map (·.name)).Nodup) (hmethod : method ∈ service.methods)
    {answer : Response}
    (h : body service (entitiesOf schema package) method = .delegate kind answer) :
    ∃ entity ∈ entitiesOf schema package, ∃ operation,
      entity.methods.at? kind = some operation ∧ operation.method = method ∧
        answer = response kind operation.response method.output.fullName := by
  obtain ⟨hmem, hown⟩ := List.mem_filter.mp hservice
  obtain rfl : service.package = package := of_decide_eq_true hown
  obtain ⟨name, entity, operation, hname, hfind, hkind, hat, hanswer⟩ := body_eq_delegate_iff.mp h
  obtain ⟨hentity, rfl⟩ := (find?_entitiesOf hkeys).mp hfind
  obtain ⟨hresolved, hpackage⟩ := mem_entitiesOf.mp hentity
  obtain ⟨-, made, hfills⟩ := (hschema.lookup_iff service hmem hnames method hmethod _).mp hname
  obtain rfl : made = kind := Option.some.inj (hfills.1.symm.trans hkind)
  have hmarked := hfills.mem_marked hmem hmethod
  obtain ⟨same, hsame, hmade⟩ := (hschema.performs_iff entity hresolved made method).mpr
    (hpackage ▸ ⟨hmarked, hfills⟩)
  obtain rfl : same = operation := Option.some.inj (hsame.symm.trans hat)
  exact ⟨entity, hentity, same, hat, hmade, hanswer.symm⟩

/--
A method of a service without two methods of one name is delegated if and only if an operation of a
resolved entity of the package was made from it.
-/
theorem exists_delegate_iff (hschema : schema.Reflects index targets)
    (hkeys : (schema.entities.map Entity.key).Nodup)
    (hservice : service ∈ servicesOf schema package)
    (hnames : (service.methods.map (·.name)).Nodup) (hmethod : method ∈ service.methods) :
    (∃ kind answer,
        body service (entitiesOf schema package) method = .delegate kind answer) ↔
      ∃ entity ∈ entitiesOf schema package, ∃ kind, entity.Performs kind method := by
  constructor
  · rintro ⟨kind, answer, hbody⟩
    obtain ⟨entity, hentity, operation, hat, hmade, -⟩ :=
      performs_of_body hschema hkeys hservice hnames hmethod hbody
    exact ⟨entity, hentity, kind, operation, hat, hmade⟩
  · rintro ⟨entity, hentity, kind, hperforms⟩
    obtain ⟨hmem, hown⟩ := List.mem_filter.mp hservice
    obtain rfl : service.package = package := of_decide_eq_true hown
    obtain ⟨hresolved, hpackage⟩ := mem_entitiesOf.mp hentity
    obtain ⟨-, hfills⟩ := (hschema.performs_iff entity hresolved kind method).mp hperforms
    rw [hpackage] at hfills
    obtain ⟨operation, hat, -⟩ := hperforms
    have hname := (hschema.lookup_iff service hmem hnames method hmethod entity.name).mpr
      ⟨List.mem_map_of_mem hresolved, kind, hfills⟩
    have hfind := (find?_entitiesOf hkeys).mpr ⟨hentity, rfl⟩
    exact ⟨kind, _, body_eq_delegate_iff.mpr
      ⟨_, entity, operation, hname, hfind, hfills.1, hat, rfl⟩⟩

end Bodies

/-- The call of the handler function that is made from a method. -/
def callCode (method : Method) : List Token :=
  code "self." ++ name (fieldIdentifier method.name) ++ code "(request.into_inner())"

def MethodFunction.Calls (function : MethodFunction) (method : Method) : Prop :=
  callCode method <:+: function.body

/-- The body that answers with the name of a method that it is not implemented. -/
def unimplementedCode (method : Method) : List Token :=
  code "let _ = request; Err(Status::unimplemented" ++
    parenthesised (quoted (method.name ++ " is not implemented")) ++ code ")"

/--
The code of an entity defines the handler function of an operation that was made from a method:
`pub async fn` with the name of the method, and with the given type of its request.
-/
def DefinesHandler (options : Options) (entity : Entity) (kind : MethodKind) (method : Method)
    (request : List Token) : Prop :=
  ∃ operation text file, ∃ function : HandlerFunction,
    entity.methods.at? kind = some operation ∧ operation.method = method ∧
    entityCode options entity = .ok text ∧ EntityText.IsReadFrom file text ∧
    function ∈ file.functions ∧ function.name = fieldIdentifier method.name ∧
    function.request = request ∧ function.signature <:+: text

section Calls

variable {options : Options} {service : Service} {entities : List Entity} {entity : Entity}
  {method : Method} {function : MethodFunction} {kind : MethodKind} {operation : CrudMethod}
  {text request : List Token}

theorem name_notMem_code (word text : String) : Token.name word ∉ code text := by
  simp [code]

theorem not_callCode_infix (method other : Method) :
    ¬ callCode other <:+: unimplementedCode method := by
  intro hwithin
  have hmem : Token.name (fieldIdentifier other.name) ∈ callCode other := by
    simp [callCode, name]
  have hcalled := hwithin.subset hmem
  simp [unimplementedCode, parenthesised, quoted, name_notMem_code] at hcalled

theorem callCode_infix (method : Method) (output : List Token) (kind : MethodKind)
    (answer : Response) : callCode method <:+: bodyCode method output (.delegate kind answer) := by
  have hcall : code "(request.into_inner()).await?; Ok(Response::new" =
      code "(request.into_inner())" ++ code ".await?; Ok(Response::new" :=
    rfl
  refine ⟨code (resultBinding kind), code ".await?; Ok(Response::new" ++
    parenthesised (responseCode output answer) ++ code ")", ?_⟩
  simp only [bodyCode, callCode, hcall, List.append_assoc]

/-- A function calls the handler function of its name, or answers that it is not implemented. -/
theorem calls_iff (h : functionOf options service entities method = .ok function) :
    (function.Calls method ↔
        ∃ kind answer, body service entities method = .delegate kind answer) ∧
      (¬ function.Calls method → function.body = unimplementedCode method) := by
  obtain ⟨-, -, -, hbody⟩ := functionOf_cases h
  rw [MethodFunction.Calls, hbody]
  cases hcase : body service entities method with
  | unimplemented =>
    have hnot := not_callCode_infix method method
    exact ⟨iff_of_false hnot nofun, fun _ ↦ rfl⟩
  | delegate kind answer =>
    have hcalls := callCode_infix method function.output kind answer
    exact ⟨iff_of_true hcalls ⟨kind, answer, rfl⟩, fun hnot ↦ absurd hcalls hnot⟩

/-- The code of an entity defines the handler functions of all its operations. -/
theorem definesHandler_of_at? (h : entityCode options entity = .ok text)
    (hoperation : entity.methods.at? kind = some operation)
    (hrequest : messageType options operation.method.input entity.package = .ok request) :
    DefinesHandler options entity kind operation.method request := by
  obtain ⟨file, hfile, hread⟩ := exists_entityText h
  obtain ⟨function, hfunction, hof⟩ := hfile.exists_function hoperation
  exact ⟨operation, text, file, function, hoperation, rfl, h, hread, hfunction,
    congrArg HandlerFunction.name hof.eq_ofOperation,
    Except.ok.inj (hof.request_eq.symm.trans hrequest), hread.signature_infix hfunction⟩

end Calls

/--
What the implementation of a service of a package has to be: one function for each method, in the
order of declaration and with its types. A function calls the handler function of its name if and
only if an entity of the package defines one that was made from this method, of which there is no
other in the package; all other functions answer that the method is not implemented.
-/
structure Implementation.IsFaithful (implementation : Implementation) (options : Options)
    (schema : Resolution) (package : String) : Prop where
  methods_eq : implementation.functions.map (·.method) = implementation.service.methods
  types : ∀ function ∈ implementation.functions,
    messageType options function.method.input package = .ok function.input ∧
      messageType options function.method.output package = .ok function.output
  calls_iff : ∀ function ∈ implementation.functions,
    function.Calls function.method ↔ ∃ entity ∈ entitiesOf schema package, ∃ kind,
      DefinesHandler options entity kind function.method function.input
  count_eq_one : ∀ function ∈ implementation.functions, function.Calls function.method →
    ((servicesOf schema package).flatMap (·.methods)).count function.method = 1
  body_eq : ∀ function ∈ implementation.functions, ¬ function.Calls function.method →
    function.body = unimplementedCode function.method

section Faithful

variable {files targets : List File} {requested : List String} {schema : Resolution}
  {options : Options} {package : String} {root : List Token} {index : TypeIndex}
  {implementation : Implementation}

theorem count_methods (services : List Service) (package : String) {method : Method}
    (hmarked : method.kind.isSome = true) :
    ((services.filter (·.package = package)).flatMap (·.methods)).count method =
      (services.flatMap Service.marked).count (package, method) := by
  induction services with
  | nil => rfl
  | cons service rest ih =>
    rw [List.flatMap_cons, List.count_append, ← ih]
    by_cases hown : service.package = package
    · subst hown
      have hcount : (service.methods.filter (·.kind.isSome)).count method =
          service.methods.count method :=
        List.count_filter hmarked
      rw [List.filter_cons_of_pos (by simp), List.flatMap_cons, List.count_append,
        Service.marked, List.count_map_of_injective _ _ (Prod.mk_right_injective _), hcount]
    · have hnone : (package, method) ∉ service.marked := by
        intro hmem
        obtain ⟨_, -, heq⟩ := List.mem_map.mp hmem
        exact hown (Prod.mk.inj heq).1
      rw [List.filter_cons_of_neg (by simpa using hown), List.count_eq_zero_of_not_mem hnone,
        Nat.zero_add]

/-- A method that an operation was made from is declared once in its package. -/
theorem count_eq_one_of_performs (hschema : schema.Reflects index targets) {entity : Entity}
    {kind : MethodKind} {method : Method} (hentity : entity ∈ entitiesOf schema package)
    (hperforms : entity.Performs kind method) :
    ((servicesOf schema package).flatMap (·.methods)).count method = 1 := by
  obtain ⟨hresolved, hpackage⟩ := mem_entitiesOf.mp hentity
  obtain ⟨hmarked, hfills⟩ := (hschema.performs_iff entity hresolved kind method).mp hperforms
  rw [hpackage] at hmarked
  rw [servicesOf, count_methods _ _ (by rw [hfills.1]; rfl)]
  exact List.count_eq_one_of_mem hschema.nodup_marked hmarked

/-- In a package that is rendered, handler functions are defined for all operations. -/
theorem exists_definesHandler_iff (hrun : RendersPackage options schema package root)
    {method : Method} {input : List Token}
    (hinput : messageType options method.input package = .ok input) :
    (∃ entity ∈ entitiesOf schema package, ∃ kind,
        DefinesHandler options entity kind method input) ↔
      ∃ entity ∈ entitiesOf schema package, ∃ kind, entity.Performs kind method := by
  constructor
  · rintro ⟨entity, hentity, kind, operation, -, -, -, hoperation, hsame, -⟩
    exact ⟨entity, hentity, kind, operation, hoperation, hsame⟩
  · rintro ⟨entity, hentity, kind, operation, hoperation, rfl⟩
    obtain ⟨text, htext⟩ := hrun.entities entity hentity
    rw [← (mem_entitiesOf.mp hentity).2] at hinput
    exact ⟨entity, hentity, kind, definesHandler_of_at? htext hoperation hinput⟩

theorem implementation_isFaithful (hschema : schema.Reflects index targets)
    (hkeys : (schema.entities.map Entity.key).Nodup)
    (hrun : RendersPackage options schema package root) {service : Service}
    (hservice : service ∈ servicesOf schema package)
    (h : implementationOf options (entitiesOf schema package) service = .ok implementation)
    (hnames : (service.methods.map (·.name)).Nodup) :
    implementation.IsFaithful options schema package := by
  obtain ⟨rfl, hfunctions⟩ := implementationOf_cases h
  have hown : implementation.service.package = package :=
    of_decide_eq_true (List.mem_filter.mp hservice).2
  have hmade (function : MethodFunction) (hfunction : function ∈ implementation.functions) :
      function.method ∈ implementation.service.methods ∧
        functionOf options implementation.service (entitiesOf schema package) function.method =
          .ok function := by
    obtain ⟨method, hmethod, hfunction⟩ := exists_of_mem_mapM hfunctions hfunction
    obtain ⟨rfl, -⟩ := functionOf_cases hfunction
    exact ⟨hmethod, hfunction⟩
  have hperforms (function : MethodFunction) (hfunction : function ∈ implementation.functions) :
      function.Calls function.method ↔ ∃ entity ∈ entitiesOf schema package, ∃ kind,
        entity.Performs kind function.method := by
    obtain ⟨hmethod, hof⟩ := hmade function hfunction
    exact (calls_iff hof).1.trans (exists_delegate_iff hschema hkeys hservice hnames hmethod)
  refine ⟨?_, fun function hfunction ↦ ?_, fun function hfunction ↦ ?_,
    fun function hfunction hcalls ↦ ?_, fun function hfunction ↦ ?_⟩
  · exact (map_eq_of_mapM hfunctions fun _ _ hof ↦ (functionOf_cases hof).1).trans
      (List.map_id _)
  · obtain ⟨-, hinput, houtput, -⟩ := functionOf_cases (hmade function hfunction).2
    rw [← hown]
    exact ⟨hinput, houtput⟩
  · obtain ⟨-, hinput, -, -⟩ := functionOf_cases (hmade function hfunction).2
    rw [hown] at hinput
    exact (hperforms function hfunction).trans (exists_definesHandler_iff hrun hinput).symm
  · obtain ⟨entity, hentity, kind, hentityPerforms⟩ := (hperforms function hfunction).mp hcalls
    exact count_eq_one_of_performs hschema hentity hentityPerforms
  · exact (calls_iff (hmade function hfunction).2).2

theorem declared_filter (services : List Service) (package : String) :
    ((services.filter (·.package = package)).filter (!·.hasStreaming)).map Service.declared =
      (services.map Service.declared).filter fun service ↦
        service.package = package && !service.hasStreaming := by
  rw [List.filter_map, List.filter_filter]
  congr 2
  ext service
  simp only [Function.comp_apply, hasStreaming_declared, Bool.and_comm]
  rfl

/--
The file of a package is its head with one implementation for each service of the requested files
that belongs to the package and does not stream, in order. Each implementation of a service without
two methods of one name is faithful; in particular no function calls a handler function that is not
defined.
-/
theorem packageCode_isFaithful (h : resolve files requested = .ok schema)
    (htargets : requestedFiles files requested = .ok targets)
    (hrun : RendersPackage options schema package root) :
    ∃ module implementations,
      options.module package = .ok module ∧
      implementationsOf options schema package = .ok implementations ∧
      root = packageHead package (entitiesOf schema package) module ++
        implementations.flatMap Implementation.code ∧
      (implementations.map fun implementation ↦ implementation.service.declared) =
        (declaredServices (TypeIndex.ofFiles files) targets).filter (fun service ↦
          service.package = package && !service.hasStreaming) ∧
      ∀ implementation ∈ implementations,
        (implementation.service.methods.map (·.name)).Nodup →
          implementation.IsFaithful options schema package := by
  have hschema := resolve_reflects h htargets
  obtain ⟨module, implementations, hmodule, himplementations, hroot⟩ :=
    packageCode_cases hrun.root
  refine ⟨module, implementations, hmodule, himplementations, hroot, ?_, ?_⟩
  · rw [← hschema.declared, ← declared_filter]
    exact map_eq_of_mapM himplementations fun _ _ hof ↦
      congrArg Service.declared (implementationOf_cases hof).1
  · intro implementation himplementation hnames
    obtain ⟨service, hservice, hof⟩ := exists_of_mem_mapM himplementations himplementation
    obtain ⟨rfl, -⟩ := implementationOf_cases hof
    exact implementation_isFaithful hschema (nodup_keys h) hrun (List.mem_filter.mp hservice).1
      hof hnames

end Faithful

def widgetFile (services : List Descriptor.Service) : File where
  name := "inventory.proto"
  package := "inventory"
  messages :=
    [.mk "Widget" [⟨"id", .optional, .string, "", false, false⟩] [] [],
      .mk "GetWidgetRequest" [⟨"id", .optional, .string, "", false, false⟩] [] []]
  enums := []
  services := services

/-- A service with one method, which looks widgets up; its responses may be streamed. -/
def widgetService (name : String) (streams : Bool) : Descriptor.Service :=
  ⟨name, [⟨"GetWidget", ".inventory.GetWidgetRequest", ".inventory.Widget", false, streams⟩]⟩

section Widget

variable (named : List (String × Bool))

theorem isPlainlyNamed_widgetFile (h : ∀ service ∈ named, isPlainName service.1.toList = true) :
    IsPlainlyNamed [widgetFile (named.map fun (name, streams) ↦ widgetService name streams)] := by
  have hmessages : arePlainMessages (widgetFile []).messages = true := by
    simp only [widgetFile, arePlainMessages, isPlainMessage]
    decide +kernel
  have hpackage : ∀ part ∈ Text.splitAll '.' "inventory".toList, isPlainName part = true := by
    decide
  have hmethod : isPlainName "GetWidget".toList = true := by
    decide
  refine ⟨?_, ?_, ?_, ?_, ?_⟩ <;> refine List.forall_mem_singleton.mpr ?_
  · exact .inr hpackage
  · exact hmessages
  · exact List.forall_mem_nil _
  · exact List.forall_mem_map.mpr h
  · exact List.forall_mem_map.mpr fun _ _ ↦ List.forall_mem_singleton.mpr hmethod

/-- The package of widgets is rendered, whichever services of this kind the file has. -/
theorem exists_widget {file : File}
    (h : (resolve [file] ["inventory.proto"]).toOption.map (fun schema ↦
      (schema.entities.map Entity.key, isFreeOfKeywords schema)) =
        some ([("inventory", "Widget")], true))
    (hfile : file = widgetFile (named.map fun (name, streams) ↦ widgetService name streams))
    (hnames : ∀ service ∈ named, isPlainName service.1.toList = true) :
    ∃ schema root entity, resolve [file] ["inventory.proto"] = .ok schema ∧
      RendersPackage .default schema "inventory" root ∧ entity ∈ schema.entities ∧
      entity.key = ("inventory", "Widget") := by
  subst hfile
  obtain ⟨schema, hschema, hread⟩ := exists_resolve h
  obtain ⟨hkeys, hfree⟩ := Prod.mk.inj hread
  obtain ⟨entity, rest, hentities, hkey, -⟩ := List.map_eq_cons_iff.mp hkeys
  have hentity : entity ∈ schema.entities := hentities ▸ List.mem_cons_self
  -- The services do not count for the index of types.
  have hdeclared : ∀ fullName ∈ [".inventory.GetWidgetRequest", ".inventory.Widget"],
      ((TypeIndex.ofFiles [widgetFile []]).message? fullName).isSome = true := by
    decide +kernel
  have hrenders := (forall_rendersPackage_iff (isPlainlyNamed_widgetFile named hnames)
    (List.forall_mem_singleton.mpr (List.forall_mem_map.mpr fun _ _ ↦
      List.forall_mem_singleton.mpr hdeclared)) hschema).mpr (not_spellsKeyword hfree)
  obtain ⟨root, hrun⟩ :=
    hrenders "inventory" (mem_packages.mpr ⟨entity, hentity, (Prod.mk.inj hkey).1⟩)
  exact ⟨schema, root, entity, hschema, hrun, hentity, hkey⟩

end Widget

/-- Two services that declare the same method. -/
def mirroredFile : File :=
  widgetFile [widgetService "Widgets" false, widgetService "Mirror" false]

/-- The implementations of both services are faithful. -/
theorem isFaithful_mirrored :
    ∃ schema root module, ∃ implementations : List Implementation,
      resolve [mirroredFile] ["inventory.proto"] = .ok schema ∧
      RendersPackage .default schema "inventory" root ∧
      root = packageHead "inventory" (entitiesOf schema "inventory") module ++
        implementations.flatMap Implementation.code ∧
      implementations.length = 2 ∧
      ∀ implementation ∈ implementations,
        implementation.IsFaithful .default schema "inventory" := by
  have hwidget : (resolve [mirroredFile] ["inventory.proto"]).toOption.map (fun schema ↦
      (schema.entities.map Entity.key, isFreeOfKeywords schema)) =
        some ([("inventory", "Widget")], true) := by
    decide +kernel
  have hnames : ∀ service ∈ declaredServices (TypeIndex.ofFiles [mirroredFile]) [mirroredFile],
      (service.methods.map (·.name)).Nodup := by
    decide +kernel
  obtain ⟨schema, root, entity, hschema, hrun, -⟩ :=
    exists_widget [("Widgets", false), ("Mirror", false)] hwidget rfl (by decide)
  obtain ⟨module, implementations, -, -, hroot, hdeclared, hfaithful⟩ :=
    packageCode_isFaithful hschema rfl hrun
  have hlength := congrArg List.length hdeclared
  rw [List.length_map] at hlength
  refine ⟨schema, root, module, implementations, hschema, hrun, hroot,
    hlength.trans (by decide +kernel), fun implementation himplementation ↦ ?_⟩
  have hmem : implementation.service.declared ∈
      implementations.map fun implementation ↦ implementation.service.declared :=
    List.mem_map_of_mem himplementation
  rw [hdeclared] at hmem
  apply hfaithful implementation himplementation
  rw [← names_declared]
  exact hnames _ (List.mem_filter.mp hmem).1

end ProtoCrud.Generate
