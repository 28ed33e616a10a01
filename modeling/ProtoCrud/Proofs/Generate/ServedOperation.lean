import ProtoCrud.Proofs.Generate.Serving

/-!
# Operations that are served

Of all methods for one operation of an entity, the first one takes its place, and the handler
function is made from it. Whether the function is ever called therefore hangs on the service of that
method alone: if it has a streaming method it is left out of the file of the package, and no other
service stands in for it.
-/

namespace ProtoCrud.Generate

open Code Handler Schema
open Descriptor (File)

/--
Whether some function in the file of the package of an entity calls the handler function of an
operation: the one that is made from the method of that function.
-/
def IsServed (options : Options) (schema : Resolution) (entity : Entity) (kind : MethodKind) :
    Prop :=
  ∃ implementations, implementationsOf options schema entity.package = .ok implementations ∧
    ∃ implementation ∈ implementations, ∃ function ∈ implementation.functions,
      function.Calls function.method ∧ entity.Performs kind function.method

section Served

variable {files targets : List File} {requested : List String} {schema : Resolution}
  {options : Options} {root : List Token} {index : TypeIndex} {entity : Entity}
  {kind : MethodKind}

/-- The first service that declares a method for an operation of an entity holds the one that the
operation was made from. -/
theorem exists_performs_of_find? (hschema : schema.Reflects index targets)
    (hentity : entity ∈ schema.entities) {opener : Service}
    (hopener : schema.services.find? (·.declares index entity.package entity.name kind) =
      some opener) :
    opener ∈ schema.services ∧ opener.package = entity.package ∧
      ∃ method ∈ opener.methods, (entity.package, method) ∈ opener.marked ∧
        entity.Performs kind method := by
  have hmem := List.mem_of_find?_eq_some hopener
  obtain ⟨hpackage, -⟩ := Service.declares_iff.mp (List.find?_some hopener)
  obtain ⟨method, hmethod, hfills⟩ := hschema.marks _ _ _ _ hopener
  have hmarked := opener.mem_marked hmethod (by rw [hfills.1]; rfl)
  rw [hpackage] at hmarked
  refine ⟨hmem, hpackage, method, hmethod, hmarked, ?_⟩
  exact (hschema.performs_iff entity hentity kind method).mpr
    ⟨List.mem_flatMap.mpr ⟨opener, hmem, hmarked⟩, hfills⟩

theorem hasStreaming_of_isServed (hschema : schema.Reflects index targets) {opener : Service}
    (hopener : opener ∈ schema.services) {method : Method}
    (hmarked : (entity.package, method) ∈ opener.marked) (hperforms : entity.Performs kind method)
    (hserved : IsServed options schema entity kind) : opener.hasStreaming = false := by
  obtain ⟨implementations, himplementations, implementation, himplementation, function,
    hfunction, -, hown⟩ := hserved
  obtain ⟨service, hservice, hof⟩ := exists_of_mem_mapM himplementations himplementation
  obtain ⟨-, hfunctions⟩ := implementationOf_cases hof
  obtain ⟨other, hother, hfunction⟩ := exists_of_mem_mapM hfunctions hfunction
  obtain ⟨rfl, -⟩ := functionOf_cases hfunction
  obtain ⟨hservice, hstreaming⟩ := List.mem_filter.mp hservice
  obtain ⟨hservice, hpackage⟩ := List.mem_filter.mp hservice
  obtain rfl : method = function.method := hperforms.unique hown
  have hsame : opener = service := by
    refine eq_of_mem_marked hschema.nodup_marked hopener hservice hmarked ?_
    obtain ⟨same, hsame, heq⟩ := List.mem_map.mp hmarked
    obtain ⟨-, rfl⟩ := Prod.mk.inj heq
    rw [← of_decide_eq_true hpackage]
    exact service.mem_marked hother (List.mem_filter.mp hsame).2
  rw [hsame]
  simpa using hstreaming

theorem isServed_of_hasStreaming_eq_false (hschema : schema.Reflects index targets)
    (hkeys : (schema.entities.map Entity.key).Nodup)
    (hrun : RendersPackage options schema entity.package root)
    (hentity : entity ∈ schema.entities) {opener : Service}
    (hopener : opener ∈ servicesOf schema entity.package)
    (hnames : (opener.methods.map (·.name)).Nodup) {method : Method}
    (hmethod : method ∈ opener.methods) (hperforms : entity.Performs kind method)
    (hstreaming : opener.hasStreaming = false) : IsServed options schema entity kind := by
  obtain ⟨_, implementations, -, himplementations, -⟩ := packageCode_cases hrun.root
  have hserved : opener ∈ (servicesOf schema entity.package).filter (!·.hasStreaming) :=
    List.mem_filter.mpr ⟨hopener, by rw [hstreaming]; rfl⟩
  obtain ⟨implementation, himplementation, hof⟩ := exists_mem_of_mapM himplementations hserved
  obtain ⟨-, hfunctions⟩ := implementationOf_cases hof
  obtain ⟨function, hfunction, hmade⟩ := exists_mem_of_mapM hfunctions hmethod
  obtain ⟨rfl, -⟩ := functionOf_cases hmade
  have hdelegate := (exists_delegate_iff hschema hkeys hopener hnames hmethod).mpr
    ⟨entity, mem_entitiesOf.mpr ⟨hentity, rfl⟩, kind, hperforms⟩
  exact ⟨implementations, himplementations, implementation, himplementation, function, hfunction,
    (calls_iff hmade).1.mpr hdelegate, hperforms⟩

/--
An operation that some service of the requested files declares a method for goes to the first such
service. If no two methods of that service have one name, the operation is served if and only if
that service does not stream, whatever the other services declare.
-/
theorem isServed_iff_hasStreaming (h : resolve files requested = .ok schema)
    (htargets : requestedFiles files requested = .ok targets)
    (hrun : RendersPackage options schema entity.package root)
    (hentity : entity ∈ schema.entities)
    (hdeclared : ∃ service ∈ declaredServices (TypeIndex.ofFiles files) targets,
      service.declares (TypeIndex.ofFiles files) entity.package entity.name kind = true) :
    ∃ opener,
      (declaredServices (TypeIndex.ofFiles files) targets).find?
          (·.declares (TypeIndex.ofFiles files) entity.package entity.name kind) = some opener ∧
      ((opener.methods.map (·.name)).Nodup →
        (IsServed options schema entity kind ↔ opener.hasStreaming = false)) := by
  have hschema := resolve_reflects h htargets
  rw [← hschema.declared] at hdeclared ⊢
  obtain ⟨first, hfirst⟩ := Option.isSome_iff_exists.mp (List.find?_isSome.mpr hdeclared)
  refine ⟨first, hfirst, fun hnames ↦ ?_⟩
  rw [find?_declared, Option.map_eq_some_iff] at hfirst
  obtain ⟨opener, hopener, rfl⟩ := hfirst
  obtain ⟨hmem, hpackage, method, hmethod, hmarked, hperforms⟩ :=
    exists_performs_of_find? hschema hentity hopener
  have hown : opener ∈ servicesOf schema entity.package :=
    List.mem_filter.mpr ⟨hmem, decide_eq_true hpackage⟩
  rw [names_declared] at hnames
  rw [hasStreaming_declared]
  exact ⟨hasStreaming_of_isServed hschema hmem hmarked hperforms,
    isServed_of_hasStreaming_eq_false hschema (nodup_keys h) hrun hentity hown hnames
      hmethod hperforms⟩

end Served

/-- A service without streaming methods, and behind it one that streams the same operation. -/
def fedFile : File :=
  widgetFile [widgetService "Widgets" false, widgetService "Feed" true]

/-- The operation is served by the first service. -/
theorem isServed_fed :
    ∃ schema entity, resolve [fedFile] ["inventory.proto"] = .ok schema ∧
      entity ∈ schema.entities ∧ entity.key = ("inventory", "Widget") ∧
      IsServed .default schema entity .get := by
  have hwidget : (resolve [fedFile] ["inventory.proto"]).toOption.map (fun schema ↦
      (schema.entities.map Entity.key, isFreeOfKeywords schema)) =
        some ([("inventory", "Widget")], true) := by
    decide +kernel
  have hfirst : ((declaredServices (TypeIndex.ofFiles [fedFile]) [fedFile]).find?
      (·.declares (TypeIndex.ofFiles [fedFile]) "inventory" "Widget" .get)).map
        (fun service ↦ (decide (service.methods.map (·.name)).Nodup, service.hasStreaming)) =
          some (true, false) := by
    decide +kernel
  obtain ⟨schema, root, entity, hschema, hrun, hentity, hkey⟩ :=
    exists_widget [("Widgets", false), ("Feed", true)] hwidget rfl (by decide)
  obtain ⟨hpackage, hname⟩ := Prod.mk.inj hkey
  have hdeclares : ∃ service ∈ declaredServices (TypeIndex.ofFiles [fedFile]) [fedFile],
      service.declares (TypeIndex.ofFiles [fedFile]) entity.package entity.name .get = true := by
    rw [hpackage, hname]
    decide +kernel
  rw [← hpackage] at hrun
  obtain ⟨opener, hopener, hserved⟩ :=
    isServed_iff_hasStreaming hschema rfl hrun hentity hdeclares
  rw [← hpackage, ← hname, hopener] at hfirst
  obtain ⟨hnames, hstreaming⟩ := Prod.mk.inj (Option.some.inj hfirst)
  exact ⟨schema, entity, hschema, hentity, hkey,
    (hserved (of_decide_eq_true hnames)).mpr hstreaming⟩

/-- The same two services in the other order. -/
def feedFile : File :=
  widgetFile [widgetService "Feed" true, widgetService "Widgets" false]

def delegatesNothing (schema : Resolution) (package : String) : Bool :=
  ((servicesOf schema package).filter (!·.hasStreaming)).all fun service ↦
    service.methods.all fun method ↦
      body service (entitiesOf schema package) method = .unimplemented

theorem not_calls_of_delegatesNothing {options : Options} {schema : Resolution}
    {package : String} (h : delegatesNothing schema package = true)
    {implementations : List Implementation}
    (himplementations : implementationsOf options schema package = .ok implementations)
    {implementation : Implementation} (himplementation : implementation ∈ implementations)
    {function : MethodFunction} (hfunction : function ∈ implementation.functions)
    (method : Method) : ¬ function.Calls method := by
  obtain ⟨service, hservice, hof⟩ := exists_of_mem_mapM himplementations himplementation
  obtain ⟨-, hfunctions⟩ := implementationOf_cases hof
  obtain ⟨own, hown, hmade⟩ := exists_of_mem_mapM hfunctions hfunction
  have hbody : body service (entitiesOf schema package) own = .unimplemented :=
    of_decide_eq_true (List.all_eq_true.mp (List.all_eq_true.mp h service hservice) own hown)
  obtain ⟨-, -, -, hcode⟩ := functionOf_cases hmade
  rw [MethodFunction.Calls, hcode, hbody]
  exact not_callCode_infix own method

/--
An operation for which a service without streaming methods declares a method need not be served: if
the service that streams comes first, no function in the file calls any handler function.
-/
theorem not_forall_isServed :
    ¬ ∀ (files targets : List File) (requested : List String) (schema : Resolution)
        (options : Options) (root : List Token) (entity : Entity) (kind : MethodKind),
        resolve files requested = .ok schema →
        requestedFiles files requested = .ok targets →
        RendersPackage options schema entity.package root →
        entity ∈ schema.entities →
        (∃ service ∈ declaredServices (TypeIndex.ofFiles files) targets,
          service.hasStreaming = false ∧
            service.declares (TypeIndex.ofFiles files) entity.package entity.name kind = true) →
        ∃ implementations, implementationsOf options schema entity.package =
            .ok implementations ∧
          ∃ implementation ∈ implementations, ∃ function ∈ implementation.functions,
            ∃ method, entity.Performs kind method ∧ function.Calls method := by
  have hwidget : (resolve [feedFile] ["inventory.proto"]).toOption.map (fun schema ↦
      (schema.entities.map Entity.key, isFreeOfKeywords schema)) =
        some ([("inventory", "Widget")], true) := by
    decide +kernel
  have hnothing : (resolve [feedFile] ["inventory.proto"]).toOption.map
      (delegatesNothing · "inventory") = some true := by
    decide +kernel
  obtain ⟨schema, root, entity, hschema, hrun, hentity, hkey⟩ :=
    exists_widget [("Feed", true), ("Widgets", false)] hwidget rfl (by decide)
  obtain ⟨hpackage, hname⟩ := Prod.mk.inj hkey
  have hdeclares : ∃ service ∈ declaredServices (TypeIndex.ofFiles [feedFile]) [feedFile],
      service.hasStreaming = false ∧
        service.declares (TypeIndex.ofFiles [feedFile]) entity.package entity.name .get =
          true := by
    rw [hpackage, hname]
    decide +kernel
  rw [hschema] at hnothing
  have hnone : delegatesNothing schema entity.package = true :=
    hpackage ▸ Option.some.inj hnothing
  rw [← hpackage] at hrun
  intro hall
  obtain ⟨implementations, himplementations, implementation, himplementation, function,
    hfunction, method, -, hcalls⟩ := hall [feedFile] [feedFile] ["inventory.proto"] schema
      .default root entity .get hschema rfl hrun hentity hdeclares
  exact not_calls_of_delegatesNothing hnone himplementations himplementation hfunction method
    hcalls

end ProtoCrud.Generate
