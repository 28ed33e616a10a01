import ProtoCrud.Proofs.Generate.Output
import ProtoCrud.Proofs.Schema.Declared

/-!
# How a run ends

A run that has resolved a schema and writes no output has met one of four things: it is strict and
an entity could not be resolved, a path cannot be read, a name in a piece of its code cannot be an
identifier, or the code of a file cannot be laid out. One walk over the parts of a run shows that
there is nothing else. Which of these can come up is then a question about the schema.
-/

namespace ProtoCrud.Generate

open Code Schema

/-- The types that the files of a schema spell, each as the handlers of a package see it. -/
inductive SpellsType (schema : Resolution) : TypeRef → String → Prop
  /-- The request of an operation. -/
  | request {entity : Entity} {kind : MethodKind} {operation : CrudMethod}
    (hentity : entity ∈ schema.entities)
    (hoperation : entity.methods.at? kind = some operation) :
    SpellsType schema operation.method.input entity.package
  /-- What a served method takes. -/
  | input {service : Service} {method : Method} (hservice : service ∈ schema.services)
    (hserved : service.hasStreaming = false) (hpackage : service.package ∈ schema.packages)
    (hmethod : method ∈ service.methods) : SpellsType schema method.input service.package
  /-- What a served method answers with. -/
  | output {service : Service} {method : Method} (hservice : service ∈ schema.services)
    (hserved : service.hasStreaming = false) (hpackage : service.package ∈ schema.packages)
    (hmethod : method ∈ service.methods) : SpellsType schema method.output service.package

/-- The reasons why a path that the files of a schema spell cannot be read. -/
inductive FailsToSpell (options : Options) (schema : Resolution) (reason : ParameterError) : Prop
  | module {package : String} (hpackage : package ∈ schema.packages)
    (h : options.module package = .error reason)
  | type {type : TypeRef} {package : String} (htype : SpellsType schema type package)
    (h : messageType options type package = .error reason)

inductive SpellsNames (options : Options) (schema : Resolution) : List Token → Prop
  /-- The codecs and the table of an entity. -/
  | record {entity : Entity} (hentity : entity ∈ schema.entities) :
    SpellsNames options schema ((codecs entity).flatMap (fun (codec, definition) ↦
      codecCode codec definition) ++ recordCode entity)
  /-- The function of an operation. -/
  | operation {entity : Entity} {kind : MethodKind} {operation : CrudMethod}
    {request : List Token} (hentity : entity ∈ schema.entities)
    (hoperation : entity.methods.at? kind = some operation)
    (hrequest : messageType options operation.method.input entity.package = .ok request) :
    SpellsNames options schema (operationCode entity kind operation request)
  /-- The name of the function of a method. -/
  | function {service : Service} {method : Method} (hservice : service ∈ schema.services)
    (hmethod : method ∈ service.methods) :
    SpellsNames options schema (name (fieldIdentifier method.name))
  /-- The body of the function of a method. -/
  | body {service : Service} {method : Method} {output : List Token}
    (hservice : service ∈ schema.services) (hmethod : method ∈ service.methods)
    (houtput : messageType options method.output service.package = .ok output) :
    SpellsNames options schema (bodyCode method output
      (Handler.body service (entitiesOf schema service.package) method))
  /-- The trait of a service. -/
  | trait {service : Service} (hservice : service ∈ schema.services) :
    SpellsNames options schema (code "proto::" ++ name (Text.snakeCase service.name ++ "_server") ++
      code "::" ++ name service.name)
  /-- The modules of a package. -/
  | modules (package : String) :
    SpellsNames options schema ((entitiesOf schema package).flatMap moduleCode)

/-- The code of the files of a schema, as it is before it is formatted. -/
inductive SpellsFile (options : Options) (schema : Resolution) (code : List Token) : Prop
  | entity {entity : Entity} (hentity : entity ∈ schema.entities)
    (h : entityCode options entity = .ok code)
  | package {package : String} (hpackage : package ∈ schema.packages)
    (h : packageCode options package (entitiesOf schema package) (servicesOf schema package) =
      .ok code)

/-- What keeps the code of a file from being made. -/
inductive FailsToWrite (options : Options) (schema : Resolution) : Abort → Prop
  | path {reason : ParameterError} (h : FailsToSpell options schema reason) :
    FailsToWrite options schema (.failed (.parameter reason))
  | name {code : List Token} {text : String} (hcode : SpellsNames options schema code)
    (h : illegalName? code = some text) :
    FailsToWrite options schema (.broken (.illegalIdentifier text))

inductive EndsRun (options : Options) (schema : Resolution) : Abort → Prop
  | strict (h : options.strict = true) :
    EndsRun options schema (.failed (.strict schema.failures))
  | code {abort : Abort} (h : FailsToWrite options schema abort) : EndsRun options schema abort
  | layout {code : List Token} (hcode : SpellsFile options schema code)
    (h : formatted? code = none) : EndsRun options schema (.broken .noLayout)

section Parts

variable {α β : Type} {P Q : Abort → Prop}

/-- Whether a part of a run is without a result for certain reasons only. -/
def EndsOnlyFor (P : Abort → Prop) (result : Except Abort α) : Prop :=
  ∀ abort, result = .error abort → P abort

theorem endsOnlyFor_ok (a : α) : EndsOnlyFor P (.ok a) :=
  fun _ h ↦ nomatch h

theorem EndsOnlyFor.bind {result : Except Abort α} {next : α → Except Abort β}
    (hresult : EndsOnlyFor P result) (hnext : ∀ a, result = .ok a → EndsOnlyFor P (next a)) :
    EndsOnlyFor P (result >>= next) := by
  intro abort h
  cases result with
  | error first => exact hresult abort (congrArg Except.error (Except.error.inj h))
  | ok a => exact hnext a rfl abort h

theorem EndsOnlyFor.mono {result : Except Abort α} (h : EndsOnlyFor P result)
    (hall : ∀ abort, P abort → Q abort) : EndsOnlyFor Q result :=
  fun abort habort ↦ hall abort (h abort habort)

/-- A part of a run that has no reason to end has a result. -/
theorem EndsOnlyFor.exists_eq_ok {result : Except Abort α} (h : EndsOnlyFor P result)
    (hnone : ∀ abort, ¬ P abort) : ∃ a, result = .ok a := by
  cases result with
  | error abort => exact absurd (h abort rfl) (hnone abort)
  | ok a => exact ⟨a, rfl⟩

theorem withParameter_eq_ok {result : Except ParameterError α} {a : α} :
    withParameter result = .ok a ↔ result = .ok a := by
  cases result with
  | error reason => exact ⟨nofun, nofun⟩
  | ok b => exact ⟨fun h ↦ congrArg Except.ok (Except.ok.inj h), fun h ↦ h ▸ rfl⟩

theorem endsOnlyFor_withParameter {result : Except ParameterError α}
    (h : ∀ reason, result = .error reason → P (.failed (.parameter reason))) :
    EndsOnlyFor P (withParameter result) := by
  intro abort hend
  cases result with
  | error reason =>
    cases hend
    exact h reason rfl
  | ok a => cases hend

theorem endsOnlyFor_legal {tokens : List Token}
    (h : ∀ text, illegalName? tokens = some text → P (.broken (.illegalIdentifier text))) :
    EndsOnlyFor P (legal tokens) := by
  intro abort hend
  rw [legal] at hend
  split at hend
  · next text htext =>
    cases hend
    exact h text htext
  · cases hend

theorem endsOnlyFor_formattedFile {tokens : List Token}
    (h : formatted? tokens = none → P (.broken .noLayout)) :
    EndsOnlyFor P (formattedFile tokens) := by
  intro abort hend
  rw [formattedFile] at hend
  split at hend
  · cases hend
  · next hnone =>
    cases hend
    exact h hnone

end Parts

section Writing

variable {options : Options} {schema : Resolution} {package : String}

theorem endsOnlyFor_module (hpackage : package ∈ schema.packages) :
    EndsOnlyFor (FailsToWrite options schema) (withParameter (options.module package)) :=
  endsOnlyFor_withParameter fun _ h ↦ .path (.module hpackage h)

/-- A type that has to be spelled ends a run only if it cannot be. -/
theorem SpellsType.endsOnlyFor {type : TypeRef} (h : SpellsType schema type package) :
    EndsOnlyFor (FailsToWrite options schema)
      (withParameter (messageType options type package)) :=
  endsOnlyFor_withParameter fun _ hreason ↦ .path (.type h hreason)

/-- A piece of code whose names have to be identifiers ends a run for one of them only. -/
theorem SpellsNames.endsOnlyFor {code : List Token} (h : SpellsNames options schema code) :
    EndsOnlyFor (FailsToWrite options schema) (legal code) :=
  endsOnlyFor_legal fun _ htext ↦ .name h htext

theorem endsOnlyFor_operationsCode {entity : Entity} (hentity : entity ∈ schema.entities)
    {operations : List (MethodKind × CrudMethod)}
    (h : ∀ operation ∈ operations, entity.methods.at? operation.1 = some operation.2) :
    EndsOnlyFor (FailsToWrite options schema) (operationsCode options entity operations) := by
  induction operations with
  | nil => exact endsOnlyFor_ok _
  | cons operation rest ih =>
    obtain ⟨hoperation, hrest⟩ := List.forall_mem_cons.mp h
    refine (SpellsType.request hentity hoperation).endsOnlyFor.bind fun request hrequest ↦ ?_
    have hpiece := SpellsNames.operation hentity hoperation (withParameter_eq_ok.mp hrequest)
    exact hpiece.endsOnlyFor.bind fun _ _ ↦ (ih hrest).bind fun _ _ ↦ endsOnlyFor_ok _

theorem endsOnlyFor_entityCode {entity : Entity} (hentity : entity ∈ schema.entities) :
    EndsOnlyFor (FailsToWrite options schema) (entityCode options entity) := by
  refine (endsOnlyFor_module (mem_packages.mpr ⟨entity, hentity, rfl⟩)).bind fun _ _ ↦ ?_
  refine (SpellsNames.record hentity).endsOnlyFor.bind fun _ _ ↦ ?_
  exact (endsOnlyFor_operationsCode hentity fun _ ↦ Slots.mem_toList.mp).bind
    fun _ _ ↦ endsOnlyFor_ok _

theorem endsOnlyFor_methodsCode {service : Service} (hservice : service ∈ schema.services)
    (hserved : service.hasStreaming = false) (hpackage : service.package ∈ schema.packages)
    {methods : List Method} (h : ∀ method ∈ methods, method ∈ service.methods) :
    EndsOnlyFor (FailsToWrite options schema)
      (methodsCode options service (entitiesOf schema service.package) methods) := by
  induction methods with
  | nil => exact endsOnlyFor_ok _
  | cons method rest ih =>
    obtain ⟨hmethod, hrest⟩ := List.forall_mem_cons.mp h
    have hinput := SpellsType.input hservice hserved hpackage hmethod
    have houtput := SpellsType.output hservice hserved hpackage hmethod
    refine EndsOnlyFor.bind ?_ fun _ _ ↦ (ih hrest).bind fun _ _ ↦ endsOnlyFor_ok _
    refine (SpellsNames.function hservice hmethod).endsOnlyFor.bind fun _ _ ↦ ?_
    refine hinput.endsOnlyFor.bind fun _ _ ↦ houtput.endsOnlyFor.bind fun output hok ↦ ?_
    have hbody := SpellsNames.body hservice hmethod (withParameter_eq_ok.mp hok)
    exact hbody.endsOnlyFor.bind fun _ _ ↦ endsOnlyFor_ok _

theorem endsOnlyFor_servicesCode (hpackage : package ∈ schema.packages)
    {services : List Service}
    (h : ∀ service ∈ services, service ∈ (servicesOf schema package).filter (!·.hasStreaming)) :
    EndsOnlyFor (FailsToWrite options schema)
      (servicesCode options (entitiesOf schema package) services) := by
  induction services with
  | nil => exact endsOnlyFor_ok _
  | cons service rest ih =>
    obtain ⟨hservice, hrest⟩ := List.forall_mem_cons.mp h
    obtain ⟨hown, hserved⟩ := List.mem_filter.mp hservice
    obtain ⟨hmem, hsame⟩ := List.mem_filter.mp hown
    obtain rfl : service.package = package := of_decide_eq_true hsame
    refine EndsOnlyFor.bind ?_ fun _ _ ↦ (ih hrest).bind fun _ _ ↦ endsOnlyFor_ok _
    refine (SpellsNames.trait hmem).endsOnlyFor.bind fun _ _ ↦ ?_
    exact (endsOnlyFor_methodsCode hmem (by simpa using hserved) hpackage fun _ h ↦ h).bind
      fun _ _ ↦ endsOnlyFor_ok _

theorem endsOnlyFor_packageCode (hpackage : package ∈ schema.packages) :
    EndsOnlyFor (FailsToWrite options schema)
      (packageCode options package (entitiesOf schema package) (servicesOf schema package)) := by
  refine (endsOnlyFor_module hpackage).bind fun _ _ ↦ ?_
  refine (endsOnlyFor_servicesCode hpackage fun _ h ↦ h).bind fun _ _ ↦ ?_
  exact (SpellsNames.modules package).endsOnlyFor.bind fun _ _ ↦ endsOnlyFor_ok _

end Writing

section Run

variable {options : Options} {schema : Resolution}

/-- The code of a file ends a run only if it cannot be laid out. -/
theorem SpellsFile.endsOnlyFor {code : List Token} (h : SpellsFile options schema code) :
    EndsOnlyFor (EndsRun options schema) (formattedFile code) :=
  endsOnlyFor_formattedFile (.layout h)

theorem endsOnlyFor_entityFiles {entities : List Entity}
    (h : ∀ entity ∈ entities, entity ∈ schema.entities) :
    EndsOnlyFor (EndsRun options schema) (entityFiles options entities) := by
  induction entities with
  | nil => exact endsOnlyFor_ok _
  | cons entity rest ih =>
    obtain ⟨hentity, hrest⟩ := List.forall_mem_cons.mp h
    have hcode : EndsOnlyFor (EndsRun options schema) (entityCode options entity) :=
      (endsOnlyFor_entityCode hentity).mono fun _ ↦ .code
    refine EndsOnlyFor.bind ?_ fun _ _ ↦ (ih hrest).bind fun _ _ ↦ endsOnlyFor_ok _
    exact hcode.bind fun _ hok ↦ (SpellsFile.entity hentity hok).endsOnlyFor

theorem endsOnlyFor_packageFiles {packages : List String}
    (h : ∀ package ∈ packages, package ∈ schema.packages) :
    EndsOnlyFor (EndsRun options schema) (packageFiles options schema packages) := by
  induction packages with
  | nil => exact endsOnlyFor_ok _
  | cons package rest ih =>
    obtain ⟨hpackage, hrest⟩ := List.forall_mem_cons.mp h
    have hcode : EndsOnlyFor (EndsRun options schema) (packageCode options package
        (entitiesOf schema package) (servicesOf schema package)) :=
      (endsOnlyFor_packageCode hpackage).mono fun _ ↦ .code
    rw [packageFiles]
    refine (endsOnlyFor_entityFiles fun _ h ↦ (List.mem_filter.mp h).1).bind fun _ _ ↦ ?_
    refine EndsOnlyFor.bind ?_ fun _ _ ↦ (ih hrest).bind fun _ _ ↦ endsOnlyFor_ok _
    exact hcode.bind fun _ hok ↦ (SpellsFile.package hpackage hok).endsOnlyFor

/-- A run is without an output for one of the listed reasons only. -/
theorem endsOnlyFor_ofSchema (options : Options) (schema : Resolution) :
    EndsOnlyFor (EndsRun options schema) (ofSchema options schema) := by
  rw [ofSchema]
  split
  · next hstrict =>
    intro abort h
    cases h
    exact .strict (Bool.and_eq_true_iff.mp hstrict).1
  · exact (endsOnlyFor_packageFiles fun _ h ↦ h).bind fun _ _ ↦ endsOnlyFor_ok _

end Run

end ProtoCrud.Generate
