import ProtoCrud.Proofs.Code.LegalName
import ProtoCrud.Proofs.Generate.CodecNames
import ProtoCrud.Proofs.Generate.PathFailure
import ProtoCrud.Proofs.Schema.PlainNames

/-!
# Names in generated code

In the code of a schema with plain names every name is an identifier: those of codecs and holders,
of fields and methods with their marks, of entities, modules and services. A keyword in a path is
then all that can keep a package from being rendered.
-/

namespace ProtoCrud.Generate

open Code Handler Schema
open Text (isPlainName isPlainName_append isPlainName_snakeCase isPlainName_camelCase)

section Entity

variable {entity : Entity} {field : Field}

theorem isIdentifier_codecOf (h : entity.IsPlainlyNamed) {codec : String}
    (hcodec : entity.codecOf? field = some codec) : isIdentifier codec = true := by
  obtain ⟨enumName, -, hname⟩ := Option.bind_eq_some_iff.mp hcodec
  exact isIdentifier_of_isPlainName (isPlainName_codecName h.enums hname)

theorem isIdentifier_codecs (h : entity.IsPlainlyNamed) :
    ∀ codec ∈ codecs entity, isIdentifier codec.1 = true := by
  intro entry hentry
  obtain ⟨name, hname, hfound⟩ := List.mem_filterMap.mp (codecs_eq entity ▸ hentry)
  obtain ⟨definition, -, rfl⟩ := Option.map_eq_some_iff.mp hfound
  have hname : name ∈ (namedEnums entity).map Prod.fst := by
    simpa using hname
  obtain ⟨named, hnamed, rfl⟩ := List.mem_map.mp hname
  obtain ⟨classified, -, hnamed⟩ := List.mem_filterMap.mp hnamed
  obtain ⟨enumName, -, hnamed⟩ := Option.bind_eq_some_iff.mp hnamed
  obtain ⟨codec, hcodec, hnamed⟩ := Option.bind_eq_some_iff.mp hnamed
  obtain ⟨_, -, hnamed⟩ := Option.bind_eq_some_iff.mp hnamed
  cases hnamed
  exact isIdentifier_of_isPlainName (isPlainName_codecName h.enums hcodec)

@[simp]
theorem hasLegalNames_typeCode (type : Sql.ColumnType) : HasLegalNames (typeCode type) := by
  induction type with
  | optional type ih => simp [typeCode, ih]
  | _ => simp [typeCode]

theorem hasLegalNames_entityType (h : entity.IsPlainlyNamed) :
    HasLegalNames (entityType entity) := by
  simp [entityType, isIdentifier_of_isPlainName (isPlainName_camelCase h.name)]

structure IsLegalTarget (target : ScanTarget) : Prop where
  read : isIdentifier (readTarget target).1.target = true
  init : ∀ init ∈ (readTarget target).2, HasLegalNames (initCode init)

theorem isLegalTarget_slot (h : isPlainName field.name.toList = true) :
    IsLegalTarget (.slot field) := by
  have hfield := isIdentifier_fieldIdentifier h
  refine ⟨hfield, ?_⟩
  simp [readTarget, initCode, hfield]

theorem isLegalTarget_enumHolder (h : isPlainName field.name.toList = true) {holder codec : String}
    (hholder : isIdentifier holder = true) (hcodec : isIdentifier codec = true) :
    IsLegalTarget (.enumHolder field holder codec) := by
  have hfield := isIdentifier_fieldIdentifier h
  refine ⟨hholder, ?_⟩
  cases hoptional : field.optional <;>
    simp [readTarget, initCode, hfield, hholder, hcodec, hoptional]

theorem isLegalTarget_audit {column : String} (h : column ∈ idColumn :: auditTail)
    (kind : Sql.ColumnKind) (declared : Option Bool) :
    IsLegalTarget (.audit column kind declared) := by
  have hcolumn : ∀ column ∈ idColumn :: auditTail,
      isIdentifier ("_" ++ column) = true ∧ isIdentifier (fieldIdentifier column) = true := by
    decide +kernel
  obtain ⟨hunused, hfield⟩ := hcolumn column h
  cases declared with
  | none => exact ⟨hunused, by simp [readTarget]⟩
  | some optional =>
    constructor <;> simp only [readTarget]
    · split <;> exact hfield
    · split
      · simp [initCode, hfield]
      · split <;> simp [initCode, hfield]

theorem isLegalTarget_fieldTargets (h : entity.IsPlainlyNamed) {fields : List Field}
    (hfields : ∀ field ∈ fields, isPlainName field.name.toList = true) (taken : List String) :
    ∀ target ∈ fieldTargets entity taken fields, IsLegalTarget target := by
  induction fields generalizing taken with
  | nil => exact List.forall_mem_nil _
  | cons field rest ih =>
    obtain ⟨hfield, hrest⟩ := List.forall_mem_cons.mp hfields
    rw [fieldTargets]
    split
    · next codec hcodec =>
      refine List.forall_mem_cons.mpr ⟨?_, ih hrest _⟩
      exact isLegalTarget_enumHolder hfield
        (isIdentifier_of_isPlainName (isPlainName_holderName hfield taken))
        (isIdentifier_codecOf h hcodec)
    · exact List.forall_mem_cons.mpr ⟨isLegalTarget_slot hfield, ih hrest taken⟩

theorem isLegalTarget_scanTargets (h : entity.IsPlainlyNamed) :
    ∀ target ∈ entity.classify.scanTargets, IsLegalTarget target := by
  intro target htarget
  rcases mem_scanTargets.mp htarget with rfl | htarget | ⟨column, hcolumn, rfl⟩
  · exact isLegalTarget_audit List.mem_cons_self _ _
  · refine isLegalTarget_fieldTargets h (fun field hfield ↦ ?_) _ target htarget
    exact h.fields field (List.mem_filter.mp hfield).1
  · exact isLegalTarget_audit (List.mem_cons_of_mem _ hcolumn) _ _

@[simp]
theorem hasLegalNames_restCode (hasRest : Bool) : HasLegalNames (restCode hasRest) := by
  cases hasRest <;> simp [restCode]

/-- The code of a codec and of the table and the rows of an entity is legal. -/
theorem hasLegalNames_record (h : entity.IsPlainlyNamed) :
    HasLegalNames ((codecs entity).flatMap (fun (codec, definition) ↦
      codecCode codec definition) ++ recordCode entity) := by
  have htargets := isLegalTarget_scanTargets h
  have hcursor : isIdentifier (cursorName entity) = true := by
    unfold cursorName
    split <;> decide +kernel
  have hcodecs : ∀ entry ∈ codecs entity, HasLegalNames (codecCode entry.1 entry.2) := by
    intro entry hentry
    have hcodec := isIdentifier_codecs h entry hentry
    simp [codecCode, variantCode, hcodec]
  have htable : HasLegalNames (tableCode entity.recordTable) := by
    simp [tableCode, kindCode]
  have hreads : ∀ read ∈ (rowReading entity).reads,
      HasLegalNames (readCode (rowReading entity).cursor read) := by
    intro read hread
    obtain ⟨pair, hpair, rfl⟩ := List.mem_map.mp hread
    obtain ⟨target, htarget, rfl⟩ := List.mem_map.mp hpair
    simp [readCode, (htargets target htarget).read, rowReading, hcursor]
  have hinits : ∀ init ∈ (rowReading entity).inits, HasLegalNames (initCode init) := by
    intro init hinit
    obtain ⟨pair, hpair, hinit⟩ := List.mem_filterMap.mp hinit
    obtain ⟨target, htarget, rfl⟩ := List.mem_map.mp hpair
    exact (htargets target htarget).init init hinit
  have hrow : HasLegalNames (fromRowCode (rowReading entity)) := by
    have hname : isIdentifier (rowReading entity).cursor = true := hcursor
    simp +contextual [fromRowCode, hname, hreads, hinits]
  simp +contextual [recordCode, hcodecs, htable, hrow, hasLegalNames_entityType h]

theorem hasLegalNames_createValue (h : entity.IsPlainlyNamed)
    (hfield : isPlainName field.name.toList = true) (inRequest : Option Field) :
    HasLegalNames (createValueCode (createValue entity field inRequest)) := by
  have hname := isIdentifier_fieldIdentifier hfield
  cases hcodec : entity.codecOf? field with
  | none =>
    cases inRequest with
    | none =>
      simp only [createValue, hcodec]
      split <;> simp [createValueCode]
    | some request => simp [createValue, hcodec, createValueCode, hname]
  | some codec =>
    have hcodec' := isIdentifier_codecOf h hcodec
    cases inRequest with
    | none =>
      simp only [createValue, hcodec]
      split <;> simp [createValueCode, hcodec']
    | some request =>
      simp only [createValue, hcodec]
      split <;> simp [createValueCode, hname, hcodec']

theorem hasLegalNames_assignment (h : entity.IsPlainlyNamed) {classified : ClassifiedField}
    (hfield : isPlainName classified.field.name.toList = true) :
    ∀ assignment ∈ assignment? entity classified, HasLegalNames (assignmentCode assignment) := by
  have hname := isIdentifier_fieldIdentifier hfield
  intro assignment hassignment
  obtain ⟨value, hvalue, rfl⟩ := Option.map_eq_some_iff.mp hassignment
  split at hvalue
  · cases hvalue
  · next hcodec _ =>
    have hcodec' := isIdentifier_codecOf h hcodec
    cases hvalue
    split <;> simp [assignmentCode, hname, hcodec']
  · cases hvalue
    simp [assignmentCode, hname]
  · cases hvalue
    simp [assignmentCode, hname]

theorem hasLegalNames_author (request : RequestShape) {column : String}
    (h : isIdentifier (fieldIdentifier column) = true) :
    HasLegalNames (authorCode (authorField? request column)) := by
  cases hauthor : request.author <;> simp [authorField?, hauthor, authorCode, h]

theorem field_of_mem_classify {classified : ClassifiedField}
    (h : classified ∈ entity.classify.fields) : classified.field ∈ entity.fields := by
  obtain ⟨field, hfield, rfl⟩ := List.mem_map.mp h
  exact (List.mem_filter.mp hfield).1

/-- The body of an operation is legal if the field that it looks up the search in is. -/
theorem hasLegalNames_operationBody (h : entity.IsPlainlyNamed) (kind : MethodKind)
    {request : RequestShape}
    (hsearch : ∀ field ∈ request.searchField, isPlainName (String.toList field) = true) :
    HasLegalNames (operationBody entity kind request) := by
  have htype := hasLegalNames_entityType h
  have hfields {classified : ClassifiedField} (hmem : classified ∈ entity.classify.fields) :=
    h.fields _ (field_of_mem_classify hmem)
  cases kind with
  | get => simp [operationBody, htype]
  | delete => simp [operationBody, htype]
  | create =>
    have hauthor := hasLegalNames_author request
      (show isIdentifier (fieldIdentifier "created_by") = true by decide +kernel)
    have hchecks : ∀ check ∈ (createPlan entity request).checks,
        HasLegalNames (checkCode check) := by
      intro check hcheck
      obtain ⟨classified, hclassified, rfl⟩ := List.mem_map.mp hcheck
      have hname := isIdentifier_fieldIdentifier (hfields (List.mem_filter.mp hclassified).1)
      simp [checkCode, hname]
    have hvalues : ∀ value ∈ (createPlan entity request).values,
        HasLegalNames (createValueCode value) := by
      intro value hvalue
      obtain ⟨classified, hclassified, rfl⟩ := List.mem_map.mp hvalue
      exact hasLegalNames_createValue h (hfields hclassified) _
    have hplan : (createPlan entity request).author = authorField? request "created_by" := rfl
    simp +contextual [operationBody, createCode, htype, hchecks, hvalues, hplan, hauthor]
  | update =>
    have hauthor := hasLegalNames_author request
      (show isIdentifier (fieldIdentifier "updated_by") = true by decide +kernel)
    have hassignments : ∀ assignment ∈ (updatePlan entity request).assignments,
        HasLegalNames (assignmentCode assignment) := by
      intro assignment hassignment
      obtain ⟨classified, hclassified, hassignment⟩ := List.mem_filterMap.mp hassignment
      exact hasLegalNames_assignment h (hfields hclassified) assignment hassignment
    have hplan : (updatePlan entity request).author = authorField? request "updated_by" := rfl
    simp +contextual [operationBody, updateCode, htype, hassignments, hplan, hauthor]
  | list =>
    cases hfield : request.searchField with
    | none => simp [operationBody, listCode, htype, hfield]
    | some field =>
      have hname := isIdentifier_fieldIdentifier (hsearch field hfield)
      simp [operationBody, listCode, htype, hfield, hname]

theorem hasLegalNames_operation (h : entity.IsPlainlyNamed) (kind : MethodKind)
    {operation : CrudMethod} (hoperation : operation.IsPlainlyNamed) {requestType : List Token}
    (hrequest : HasLegalNames requestType) :
    HasLegalNames (operationCode entity kind operation requestType) := by
  have hname := isIdentifier_fieldIdentifier hoperation.method
  have htype := hasLegalNames_entityType h
  have hbody := hasLegalNames_operationBody h kind hoperation.search
  have hresult : HasLegalNames (resultCode kind (entityType entity)) := by
    cases kind <;> simp [resultCode, htype]
  simp [operationCode, hname, hrequest, hresult, hbody]

end Entity

theorem hasLegalNames_counter (counter : Counter) (type : ScalarType) :
    HasLegalNames (countCode counter type) := by
  unfold countCode
  dsimp only
  split <;> simp

theorem hasLegalNames_responseInit {init : ResponseInit} (h : isIdentifier init.field = true) :
    HasLegalNames (responseInitCode init) := by
  obtain ⟨field, value⟩ := init
  cases value <;> simp [responseInitCode, responseValueCode, hasLegalNames_counter] <;> exact h

theorem hasLegalNames_literal {type : List Token} (htype : HasLegalNames type)
    {inits : List ResponseInit} (h : ∀ init ∈ inits, isIdentifier init.field = true)
    (hasRest : Bool) : HasLegalNames (responseCode type (.literal inits hasRest)) := by
  have hinits : ∀ init ∈ inits, HasLegalNames (responseInitCode init) :=
    fun init hinit ↦ hasLegalNames_responseInit (h init hinit)
  cases hasRest <;> simpa [responseCode, htype] using hinits

theorem isIdentifier_counterInits (shape : ResponseShape) :
    ∀ init ∈ counterInits shape, isIdentifier init.field = true := by
  have hcounter (counter : Counter) : isIdentifier counter.name = true := by
    cases counter <;> decide +kernel
  simp only [counterInits, List.forall_mem_append, Option.mem_toList]
  refine ⟨⟨?_, ?_⟩, ?_⟩ <;>
    · intro init hinit
      obtain ⟨type, -, rfl⟩ := Option.map_eq_some_iff.mp hinit
      exact hcounter _

/-- A response is legal if the field that carries the entity has a plain name. -/
theorem hasLegalNames_response {kind : MethodKind} {shape : ResponseShape} {outputName : String}
    (h : ∀ field ∈ shape.entityField, isPlainName (String.toList field) = true)
    {type : List Token} (htype : HasLegalNames type) :
    HasLegalNames (responseCode type (response kind shape outputName)) := by
  have hfield (value : ResponseValue) : ∀ field ∈ shape.entityField,
      isIdentifier (ResponseInit.mk (fieldIdentifier field) value).field = true :=
    fun field hmem ↦ isIdentifier_fieldIdentifier (h field hmem)
  have hone (hdelete : kind ≠ .delete) (hlist : kind ≠ .list) :
      HasLegalNames (responseCode type (response kind shape outputName)) := by
    rw [response]
    · split
      · next field hmem =>
        exact hasLegalNames_literal htype
          (List.forall_mem_singleton.mpr (hfield .record field hmem)) _
      · simp [responseCode]
    · exact hdelete
    · exact hlist
  cases kind with
  | create => exact hone (by decide) (by decide)
  | get => exact hone (by decide) (by decide)
  | update => exact hone (by decide) (by decide)
  | delete =>
    simp only [response]
    split
    · simp [responseCode]
    · split
      · exact hasLegalNames_literal htype (List.forall_mem_singleton.mpr (by decide +kernel)) _
      · simp [responseCode, htype]
  | list =>
    refine hasLegalNames_literal htype ?_ _
    refine List.forall_mem_append.mpr ⟨fun init hinit ↦ ?_, isIdentifier_counterInits shape⟩
    obtain ⟨field, hmem, rfl⟩ := Option.map_eq_some_iff.mp (Option.mem_toList.mp hinit)
    exact hfield .items field hmem

section Package

variable {entities : List Entity} {service : Service} {method : Method}

theorem hasLegalNames_messageType {options : Options} {type : TypeRef} {package : String}
    {tokens : List Token} (h : messageType options type package = .ok tokens) :
    HasLegalNames tokens := by
  have hpath {text : String} (htext : typePath text = .ok tokens) : HasLegalNames tokens := by
    rw [typePath] at htext
    split at htext
    · next path hpath =>
      cases htext
      exact hasLegalNames_of_path? hpath
    · cases htext
  rw [messageType] at h
  split at h
  · cases h
    exact hasLegalNames_code
  · split at h
    · exact hpath h
    · split at h
      · exact hpath h
      · obtain ⟨module, -, h⟩ := bind_eq_ok.mp h
        exact hpath h

theorem hasLegalNames_body (hmethod : isPlainName method.name.toList = true)
    (hentities : ∀ entity ∈ entities, entity.IsPlainlyNamed) {type : List Token}
    (htype : HasLegalNames type) :
    HasLegalNames (bodyCode method type (body service entities method)) := by
  have hname := isIdentifier_fieldIdentifier hmethod
  cases hbody : body service entities method with
  | unimplemented => simp [bodyCode]
  | delegate kind answer =>
    obtain ⟨_, entity, operation, -, hfound, -, hoperation, rfl⟩ := body_eq_delegate_iff.mp hbody
    have hentity := hentities entity (List.mem_of_find?_eq_some hfound)
    have hresponse : HasLegalNames (responseCode type
        (response kind operation.response method.output.fullName)) :=
      hasLegalNames_response (hentity.operations kind operation hoperation).carrier htype
    simp [bodyCode, hname, hresponse]

theorem hasLegalNames_trait (h : service.IsPlainlyNamed) :
    HasLegalNames (code "proto::" ++ name (Text.snakeCase service.name ++ "_server") ++
      code "::" ++ name service.name) := by
  have hmodule : isPlainName (Text.snakeCase service.name ++ "_server").toList = true := by
    rw [String.toList_append]
    exact isPlainName_append (isPlainName_snakeCase h.name) (List.all_eq_true.mp (by decide))
  simp [isIdentifier_of_isPlainName hmodule, isIdentifier_of_isPlainName h.name]

theorem hasLegalNames_modules (h : ∀ entity ∈ entities, entity.IsPlainlyNamed) :
    HasLegalNames (entities.flatMap moduleCode) := by
  refine hasLegalNames_flatMap.mpr fun entity hentity ↦ ?_
  have hname := isIdentifier_of_isPlainName (isPlainName_snakeCase (h entity hentity).name)
  simp [moduleCode, hname]

end Package

section Schema

variable {files : List Descriptor.File} {requested : List String} {options : Options}
  {schema : Resolution}

/-- In the code of a schema with plain names every name is an identifier. -/
theorem SpellsNames.hasLegalNames (hentities : ∀ entity ∈ schema.entities, entity.IsPlainlyNamed)
    (hservices : ∀ service ∈ schema.services, service.IsPlainlyNamed) {code : List Token}
    (h : SpellsNames options schema code) : HasLegalNames code := by
  cases h with
  | record hentity => exact hasLegalNames_record (hentities _ hentity)
  | operation hentity hoperation hrequest =>
    have hplain := hentities _ hentity
    exact hasLegalNames_operation hplain _ (hplain.operations _ _ hoperation)
      (hasLegalNames_messageType hrequest)
  | function hservice hmethod =>
    exact hasLegalNames_name.mpr
      (isIdentifier_fieldIdentifier ((hservices _ hservice).methods _ hmethod))
  | body hservice hmethod houtput =>
    exact hasLegalNames_body ((hservices _ hservice).methods _ hmethod)
      (fun entity hentity ↦ hentities entity (List.mem_filter.mp hentity).1)
      (hasLegalNames_messageType houtput)
  | trait hservice => exact hasLegalNames_trait (hservices _ hservice)
  | modules package =>
    exact hasLegalNames_modules fun entity hentity ↦
      hentities entity (List.mem_filter.mp hentity).1

/-- Plain names are those that a path can have, apart from keywords. -/
theorem isPlainSet_of_isPlainlyNamed (h : IsPlainlyNamed files)
    (hdeclared : ∀ file ∈ files, ∀ service ∈ file.services, ∀ method ∈ service.methods,
      ∀ fullName ∈ [method.input, method.output],
        ((TypeIndex.ofFiles files).message? fullName).isSome = true) : IsPlainSet files where
  packages file hfile := by
    simpa [isPlainPackage] using h.packages file hfile
  messages file hfile := allHavePlainNames_of_arePlainMessages (h.messages file hfile)
  declared := hdeclared

/--
If all names that the files declare are plain and all types of their methods declared, a run renders
all packages with a resolved entity if and only if no path is spelled with a keyword.
-/
theorem forall_rendersPackage_iff (h : IsPlainlyNamed files)
    (hdeclared : ∀ file ∈ files, ∀ service ∈ file.services, ∀ method ∈ service.methods,
      ∀ fullName ∈ [method.input, method.output],
        ((TypeIndex.ofFiles files).message? fullName).isSome = true)
    (hschema : resolve files requested = .ok schema) :
    (∀ package ∈ schema.packages, ∃ root, RendersPackage .default schema package root) ↔
      ¬ SpellsKeyword schema := by
  have hspells := exists_failsToSpell_iff (isPlainSet_of_isPlainlyNamed h hdeclared) hschema
  obtain ⟨hentities, hservices⟩ := h.resolve hschema
  constructor
  · intro hrenders hkeyword
    obtain ⟨reason, hfails⟩ := hspells.mpr hkeyword
    exact not_failsToSpell_of_rendersPackage hrenders reason hfails
  · intro hfree package hpackage
    refine exists_rendersPackage_of_not_failsToWrite (fun abort hfails ↦ ?_) hpackage
    cases hfails with
    | path hpath => exact hfree (hspells.mp ⟨_, hpath⟩)
    | name hcode hname =>
      exact absurd hname (illegalName?_ne_some (hcode.hasLegalNames hentities hservices) _)

/-- With plain names and without keywords, all entities have their code. -/
theorem exists_entityCode {requested : List String} (h : IsPlainlyNamed files)
    (hdeclared : ∀ file ∈ files, ∀ service ∈ file.services, ∀ method ∈ service.methods,
      ∀ fullName ∈ [method.input, method.output],
        ((TypeIndex.ofFiles files).message? fullName).isSome = true)
    (hfree : (resolve files requested).toOption.map isFreeOfKeywords = some true)
    (hschema : resolve files requested = .ok schema) {entity : Entity}
    (hentity : entity ∈ schema.entities) : ∃ text, entityCode .default entity = .ok text := by
  rw [hschema] at hfree
  have hrenders := (forall_rendersPackage_iff h hdeclared hschema).mpr
    (not_spellsKeyword (Option.some.inj hfree))
  obtain ⟨root, hrun⟩ := hrenders entity.package (mem_packages.mpr ⟨entity, hentity, rfl⟩)
  exact hrun.entities entity (mem_entitiesOf.mpr ⟨hentity, rfl⟩)

end Schema

end ProtoCrud.Generate
