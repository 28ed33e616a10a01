import ProtoCrud.Proofs.Generate.Rendering
import ProtoCrud.Proofs.Schema.Declared
import ProtoCrud.Proofs.Schema.TypePaths

/-!
# Runs that fail for a path

A run spells the module of the package of every entity, the request type of every operation, and
both types of every method that is served. One of these paths that cannot be read ends the whole
run, whatever else there is to write. With plain names and the default template this happens for
keywords only: a segment of a package, or the snake-case name of a message around a type.
-/

namespace ProtoCrud.Generate

open Code Schema
open Text (isPlainName isPlainChar_of_mem exists_cons_of_isPlainName)

def isPlainPackage (package : String) : Bool :=
  package = "" || (Text.splitAll '.' package.toList).all isPlainName

/-- The modules below the root that lead to a package. -/
def modulesOf (package : String) : List (List Char) :=
  "proto".toList :: if package = "" then [] else Text.splitAll '.' package.toList

theorem isPlainName_of_mem_modulesOf {package : String} (h : isPlainPackage package = true) :
    ∀ name ∈ modulesOf package, isPlainName name = true := by
  refine List.forall_mem_cons.mpr ⟨by decide, fun name hname ↦ ?_⟩
  split at hname
  · cases hname
  · next hne =>
    rw [isPlainPackage, Bool.or_eq_true, decide_eq_true_eq, List.all_eq_true] at h
    exact h.resolve_left hne name hname

/-- The parts of a package joined by colons are a path, with colons in front of it. -/
theorem behindColons_splitAll (package : List Char) :
    behindColons (Text.splitAll '.' package) =
      ':' :: ':' :: package.flatMap fun c ↦ if c = '.' then [':', ':'] else [c] :=
  Text.flatMap_splitAll '.' [':', ':'] package

theorem chars_default {package : String} (hne : package ≠ "") :
    "crate::proto::".toList ++ Options.packagePath package =
      pathChars false "crate".toList (modulesOf package) := by
  have hparts := behindColons_splitAll package.toList
  rw [modulesOf, if_neg hne, pathChars, behindColons, List.flatMap_cons, ← behindColons, hparts]
  rfl

theorem moduleText_default {package : String} (h : isPlainPackage package = true) :
    Options.default.moduleText package =
      String.ofList (pathChars false "crate".toList (modulesOf package)) := by
  by_cases hne : package = ""
  · subst hne
    decide +kernel
  · have hplace : packagePlace.toList = '\x7b' :: "package\x7d".toList := by
      decide
    have htemplate : Options.default.modulePath.toList =
        "crate::proto::".toList ++ '\x7b' :: "package\x7d".toList := by
      decide
    have hend : ∀ c ∈ (pathChars false "crate".toList (modulesOf package)).getLast?, c ≠ ':' :=
      getLast?_pathChars (by decide) (isPlainName_of_mem_modulesOf h)
    rw [Options.moduleText, hplace, htemplate]
    dsimp only
    rw [Text.replaceAll_append (by decide), Text.replaceAll_self, chars_default hne,
      Text.dropColonsEnd_of_getLast? hend]

def moduleIsRefused (package : String) : Bool :=
  package != runtimePackage && hasPathKeyword '.' package

theorem anyKeyword_modulesOf (package : String) :
    anyKeyword ("crate".toList :: modulesOf package) = hasPathKeyword '.' package := by
  have hcrate : isPathKeyword (String.ofList "crate".toList) = false := by
    decide
  have hproto : isPathKeyword (String.ofList "proto".toList) = false := by
    decide
  rw [modulesOf, anyKeyword, List.any_cons, List.any_cons, hcrate, hproto, Bool.false_or,
    Bool.false_or]
  split
  · next hempty =>
    subst hempty
    decide
  · rfl

/-- Whether tokens are those of a path of plain names, none of which is a keyword. -/
def IsPlainModule (tokens : List Token) : Prop :=
  ∃ rooted first others, isPlainName first = true ∧
    (∀ name ∈ others, isPlainName name = true) ∧ anyKeyword (first :: others) = false ∧
      tokens = pathTokens rooted (first :: others)

/-- The module of a package is a path if and only if no part of the package is a keyword. -/
theorem module_default {package : String} (h : isPlainPackage package = true) :
    if moduleIsRefused package then
      Options.default.module package =
        .error (.modulePath (Options.default.moduleText package))
    else ∃ tokens, Options.default.module package = .ok tokens ∧ IsPlainModule tokens := by
  by_cases hruntime : package = runtimePackage
  · subst hruntime
    exact ⟨_, by decide, true, "crud_runtime".toList, ["proto".toList], by decide, by decide,
      by decide, rfl⟩
  · have hrefused : moduleIsRefused package = hasPathKeyword '.' package := by
      rw [moduleIsRefused, bne_iff_ne.mpr hruntime, Bool.true_and]
    have hnames := isPlainName_of_mem_modulesOf h
    have hpath : path? (Options.default.moduleText package) =
        if hasPathKeyword '.' package then none
        else some (pathTokens false ("crate".toList :: modulesOf package)) := by
      rw [moduleText_default h, path?_pathChars (by decide) hnames, anyKeyword_modulesOf]
    rw [Options.module, if_neg hruntime, hrefused]
    dsimp only
    rw [hpath]
    cases hkeyword : hasPathKeyword '.' package with
    | true => rfl
    | false =>
      exact ⟨_, rfl, false, "crate".toList, modulesOf package, by decide, hnames,
        (anyKeyword_modulesOf package).trans hkeyword, rfl⟩

theorem exists_module_default_iff {package : String} (h : isPlainPackage package = true) :
    (∃ tokens, Options.default.module package = .ok tokens) ↔
      moduleIsRefused package = false := by
  have hmodule := module_default h
  cases hrefused : moduleIsRefused package with
  | true =>
    rw [hrefused, if_pos rfl] at hmodule
    simp [hmodule]
  | false =>
    rw [hrefused, if_neg Bool.false_ne_true] at hmodule
    obtain ⟨tokens, htokens, -⟩ := hmodule
    simp [htokens]

/-- Whether the type of a message cannot be spelled in the files of a package. -/
def typeIsRefused (type : TypeRef) (package : String) : Bool :=
  type.fullName != emptyName && (hasPathKeyword ':' type.path ||
    (type.package != standardPackage && type.package != package && moduleIsRefused type.package))

/-- A path that goes on from a module can be read unless a keyword comes up. -/
theorem typePath_behind {leading : String} (rooted : Bool) (first : List Char)
    (others : List (List Char))
    (hleading : leading = String.ofList (pathChars rooted first others) ++ "::")
    (hfirst : isPlainName first = true) (hothers : ∀ name ∈ others, isPlainName name = true)
    (hmodule : anyKeyword (first :: others) = false) {text : String} (htext : IsPlainPath text) :
    (∃ tokens, typePath (leading ++ text) = .ok tokens) ↔ hasPathKeyword ':' text = false := by
  obtain ⟨next, more, hnext, hmore, rfl⟩ := htext
  have hchars : leading ++ String.ofList (pathChars false next more) =
      String.ofList (pathChars rooted first (others ++ next :: more)) := by
    apply String.toList_injective
    simp [hleading, pathChars, behindColons]
  have hall : ∀ name ∈ others ++ next :: more, isPlainName name = true :=
    List.forall_mem_append.mpr ⟨hothers, List.forall_mem_cons.mpr ⟨hnext, hmore⟩⟩
  have hkeyword : anyKeyword (first :: (others ++ next :: more)) =
      hasPathKeyword ':' (String.ofList (pathChars false next more)) := by
    rw [hasPathKeyword, String.toList_ofList, pathChars, if_neg Bool.false_ne_true,
      List.nil_append, anyKeyword_splitAll hnext hmore, ← List.cons_append]
    rw [anyKeyword] at hmodule
    rw [anyKeyword, List.any_append, hmodule, Bool.false_or]
    rfl
  rw [hchars, typePath, path?_pathChars hfirst hall, hkeyword]
  cases hasPathKeyword ':' (String.ofList (pathChars false next more)) with
  | true => simp
  | false => simp

/-- The type of a message can be spelled if and only if it is not refused. -/
theorem exists_messageType_default_iff {type : TypeRef} (hpath : IsPlainPath type.path)
    (hpackage : isPlainPackage type.package = true) (package : String) :
    (∃ tokens, messageType .default type package = .ok tokens) ↔
      typeIsRefused type package = false := by
  rw [messageType, typeIsRefused]
  split
  · next hempty => simp [hempty]
  · next hfull =>
    rw [bne_iff_ne.mpr hfull, Bool.true_and]
    split
    · next hstandard =>
      have hread : (∃ tokens, typePath ("crud_runtime::prost_types::" ++ type.path) = .ok tokens) ↔
          hasPathKeyword ':' type.path = false :=
        typePath_behind false "crud_runtime".toList ["prost_types".toList] (by decide) (by decide)
          (by decide) (by decide) hpath
      simp [hread, hstandard]
    · next hstandard =>
      rw [bne_iff_ne.mpr hstandard, Bool.true_and]
      split
      · next hown =>
        have hread : (∃ tokens, typePath ("proto::" ++ type.path) = .ok tokens) ↔
            hasPathKeyword ':' type.path = false :=
          typePath_behind false "proto".toList [] (by decide) (by decide) (by decide) (by decide)
            hpath
        simp [hread, hown]
      · next hother =>
        rw [bne_iff_ne.mpr hother, Bool.true_and]
        have hmodule := module_default hpackage
        cases hkeyword : moduleIsRefused type.package with
        | true =>
          rw [hkeyword, if_pos rfl] at hmodule
          rw [hmodule, Bool.or_true]
          refine iff_of_false ?_ (by decide)
          rintro ⟨tokens, htokens⟩
          exact nomatch htokens
        | false =>
          rw [hkeyword, if_neg Bool.false_ne_true] at hmodule
          obtain ⟨tokens, htokens, rooted, first, others, hfirst, hothers, hfree, rfl⟩ := hmodule
          have hleading : pathText (pathTokens rooted (first :: others)) ++ "::" =
              String.ofList (pathChars rooted first others) ++ "::" := by
            rw [pathText_pathTokens hfirst hothers]
          have hread := typePath_behind rooted first others hleading hfirst hothers hfree hpath
          rw [htokens, Bool.or_false, ← hread]
          simp only [bind, Except.bind]

inductive SpellsKeyword (schema : Resolution) : Prop
  | module {package : String} (hpackage : package ∈ schema.packages)
    (h : moduleIsRefused package = true)
  | type {type : TypeRef} {package : String} (htype : SpellsType schema type package)
    (h : typeIsRefused type package = true)

/-- Files whose packages and messages have plain names, and that declare what their methods use. -/
structure IsPlainSet (files : List Descriptor.File) : Prop where
  packages : ∀ file ∈ files, isPlainPackage file.package = true
  messages : ∀ file ∈ files, allHavePlainNames file.messages = true
  declared : ∀ file ∈ files, ∀ service ∈ file.services, ∀ method ∈ service.methods,
    ∀ fullName ∈ [method.input, method.output],
      ((TypeIndex.ofFiles files).message? fullName).isSome = true

variable {files : List Descriptor.File} {requested : List String} {schema : Resolution}

def IsPlainType (type : TypeRef) : Prop :=
  IsPlainPath type.path ∧ isPlainPackage type.package = true

theorem IsPlainSet.holdsOfDeclared (h : IsPlainSet files) :
    HoldsOfDeclared (TypeIndex.ofFiles files) files fun package method ↦
      isPlainPackage package = true ∧ IsPlainType method.input ∧ IsPlainType method.output := by
  intro file hfile service hservice method hmethod kind
  have hplain {fullName : String} (hname : fullName ∈ [method.input, method.output]) :
      IsPlainType ((TypeIndex.ofFiles files).typeRef fullName) := by
    obtain ⟨hpath, other, hother, hpackage⟩ :=
      path_typeRef h.messages (h.declared file hfile service hservice method hmethod _ hname)
    exact ⟨hpath, hpackage ▸ h.packages other hother⟩
  exact ⟨h.packages file hfile, hplain (by simp), hplain (by simp)⟩

theorem exists_error_iff {ε α : Type} {result : Except ε α} :
    (∃ reason, result = .error reason) ↔ ¬ ∃ a, result = .ok a := by
  cases result <;> simp

/-- In plain files the paths that cannot be spelled are those with a keyword. -/
theorem exists_failsToSpell_iff (hfiles : IsPlainSet files)
    (hschema : resolve files requested = .ok schema) :
    (∃ reason, FailsToSpell .default schema reason) ↔ SpellsKeyword schema := by
  obtain ⟨hservices, hentities⟩ := resolve_holds hschema hfiles.holdsOfDeclared
  have hmodule {package : String} (h : package ∈ schema.packages) :
      (∃ reason, Options.default.module package = .error reason) ↔
        moduleIsRefused package = true := by
    obtain ⟨entity, hentity, rfl⟩ := mem_packages.mp h
    obtain ⟨_, hplain, -⟩ := (hentities entity hentity).1
    rw [exists_error_iff, exists_module_default_iff hplain, Bool.not_eq_false]
  have htype {type : TypeRef} {package : String} (h : SpellsType schema type package) :
      (∃ reason, messageType .default type package = .error reason) ↔
        typeIsRefused type package = true := by
    have hplain : IsPlainType type := by
      cases h with
      | request hentity hoperation => exact ((hentities _ hentity).2 _ _ hoperation).2.1
      | input hservice _ _ hmethod => exact (hservices _ hservice _ hmethod).2.1
      | output hservice _ _ hmethod => exact (hservices _ hservice _ hmethod).2.2
    rw [exists_error_iff, exists_messageType_default_iff hplain.1 hplain.2, Bool.not_eq_false]
  constructor
  · rintro ⟨reason, hfails⟩
    cases hfails with
    | module hpackage herror => exact .module hpackage ((hmodule hpackage).mp ⟨reason, herror⟩)
    | type hspelled herror => exact .type hspelled ((htype hspelled).mp ⟨reason, herror⟩)
  · intro hspells
    cases hspells with
    | module hpackage hrefused =>
      obtain ⟨reason, herror⟩ := (hmodule hpackage).mpr hrefused
      exact ⟨reason, .module hpackage herror⟩
    | type hspelled hrefused =>
      obtain ⟨reason, herror⟩ := (htype hspelled).mpr hrefused
      exact ⟨reason, .type hspelled herror⟩

/-- A run that is not strict fails for paths only. -/
theorem exists_failsToSpell_of_failed {options : Options} (hstrict : options.strict = false)
    {schema : Resolution} {error : GenerateError}
    (h : ofSchema options schema = .error (.failed error)) :
    ∃ reason, error = .parameter reason ∧ FailsToSpell options schema reason := by
  cases endsOnlyFor_ofSchema options schema _ h with
  | strict htrue =>
    rw [hstrict] at htrue
    cases htrue
  | code hcode =>
    cases hcode with
    | path hpath => exact ⟨_, rfl, hpath⟩

/--
Files that are all present, with plain names and declared types, resolve to a schema. The run on
them fails for a path with a keyword only, which is none of the reasons of a single entity; and it
does not succeed if there is such a path, whatever else it could have written.
-/
theorem generate_fails_for_keywords (hfiles : IsPlainSet files)
    (hpresent : ∀ name ∈ requested, ∃ file ∈ files, file.name = name) :
    ∃ schema, resolve files requested = .ok schema ∧
      (∀ error, generate files requested .default = .error (.failed error) →
        SpellsKeyword schema ∧
          ∃ reason, error = .parameter reason ∧ FailsToSpell .default schema reason) ∧
      (SpellsKeyword schema → ∀ output, generate files requested .default ≠ .ok output) := by
  obtain ⟨schema, hschema⟩ := exists_schema hpresent
  have hrun : generate files requested .default = ofSchema .default schema := by
    rw [generate, hschema]
  refine ⟨schema, hschema, fun error herror ↦ ?_, fun hkeyword output houtput ↦ ?_⟩
  · obtain ⟨reason, hparameter, hfails⟩ := exists_failsToSpell_of_failed rfl (hrun ▸ herror)
    exact ⟨(exists_failsToSpell_iff hfiles hschema).mp ⟨reason, hfails⟩, reason, hparameter, hfails⟩
  · obtain ⟨reason, hfails⟩ := (exists_failsToSpell_iff hfiles hschema).mpr hkeyword
    have hrenders (package : String) (hpackage : package ∈ schema.packages) :
        ∃ root, RendersPackage .default schema package root :=
      exists_rendersPackage_of_eq_ok (hrun ▸ houtput) hpackage
    exact not_failsToSpell_of_rendersPackage hrenders reason hfails

/-- A file with an entity and a method that looks it up, in the given package. -/
def thingFile (package : String) : Descriptor.File where
  name := "things.proto"
  package := package
  messages :=
    [.mk "Thing" [⟨"id", .optional, .string, "", false, false⟩] [] [],
      .mk "GetThingRequest" [⟨"id", .optional, .string, "", false, false⟩] [] []]
  enums := []
  services :=
    [⟨"Things", [⟨"GetThing", "." ++ package ++ ".GetThingRequest", "." ++ package ++ ".Thing",
      false, false⟩]⟩]

theorem isPlainSet_thingFile {package : String} (hpackage : isPlainPackage package = true)
    (hdeclared : ∀ fullName ∈ ["." ++ package ++ ".GetThingRequest", "." ++ package ++ ".Thing"],
      ((TypeIndex.ofFiles [thingFile package]).message? fullName).isSome = true) :
    IsPlainSet [thingFile package] := by
  have hmessages : allHavePlainNames (thingFile package).messages = true := by
    simp only [thingFile, allHavePlainNames, hasPlainNames]
    decide
  refine ⟨List.forall_mem_singleton.mpr hpackage, List.forall_mem_singleton.mpr hmessages, ?_⟩
  refine List.forall_mem_singleton.mpr (List.forall_mem_singleton.mpr ?_)
  exact List.forall_mem_singleton.mpr hdeclared

theorem entityFile_of_module_error {options : Options} {entity : Entity} {reason : ParameterError}
    (h : options.module entity.package = .error reason) :
    entityFile options entity = .error (.failed (.parameter reason)) := by
  rw [entityFile, entityCode, h]
  rfl

/-- The run on a schema of one entity ends as the file of the entity does. -/
theorem ofSchema_of_entityFile_error {options : Options} (hstrict : options.strict = false)
    {entity : Entity} (hentities : schema.entities = [entity]) {abort : Abort}
    (h : entityFile options entity = .error abort) : ofSchema options schema = .error abort := by
  have hpackages : schema.packages = [entity.package] := by
    simp [Resolution.packages, hentities, List.eraseDups_cons]
  have hown : schema.entities.filter (·.package = entity.package) = [entity] := by
    simp [hentities]
  rw [ofSchema, hstrict, hpackages, packageFiles, hown, entityFiles, h]
  rfl

/-- The run on a file with plain names fails as a whole: `type` is a keyword. -/
theorem generate_acme_type :
    IsPlainSet [thingFile "acme.type"] ∧
      generate [thingFile "acme.type"] ["things.proto"] .default =
        .error (.failed (.parameter (.modulePath "crate::proto::acme::type"))) := by
  have hplain : IsPlainSet [thingFile "acme.type"] :=
    isPlainSet_thingFile (by decide) (by decide +kernel)
  have hthing : (resolve [thingFile "acme.type"] ["things.proto"]).toOption.map
      (fun schema ↦ schema.entities.map Entity.key) = some [("acme.type", "Thing")] := by
    decide +kernel
  obtain ⟨schema, hschema, hkeys⟩ := exists_resolve hthing
  obtain ⟨entity, rest, hentities, hkey, hrest⟩ := List.map_eq_cons_iff.mp hkeys
  obtain rfl := List.map_eq_nil_iff.mp hrest
  have hpackage : entity.package = "acme.type" := (Prod.mk.inj hkey).1
  have htext : Options.default.moduleText "acme.type" = "crate::proto::acme::type" := by
    decide +kernel
  have hrefused : moduleIsRefused "acme.type" = true := by
    decide +kernel
  have hmodule := module_default (hplain.packages _ List.mem_cons_self)
  rw [thingFile, if_pos hrefused, htext, ← hpackage] at hmodule
  refine ⟨hplain, ?_⟩
  rw [generate, hschema]
  exact ofSchema_of_entityFile_error rfl hentities (entityFile_of_module_error hmodule)

/-- Whether no type that a schema names, served or not, has a keyword in its path. -/
def isFreeOfKeywords (schema : Resolution) : Bool :=
  schema.entities.all (fun entity ↦ !moduleIsRefused entity.package &&
    entity.methods.toList.all fun operation ↦
      !typeIsRefused operation.2.method.input entity.package) &&
  schema.services.all fun service ↦ service.methods.all fun method ↦
    !typeIsRefused method.input service.package && !typeIsRefused method.output service.package

theorem not_spellsKeyword (h : isFreeOfKeywords schema = true) : ¬ SpellsKeyword schema := by
  simp only [isFreeOfKeywords, Bool.and_eq_true, List.all_eq_true, Bool.not_eq_true'] at h
  obtain ⟨hentities, hservices⟩ := h
  intro hspells
  cases hspells with
  | module hpackage hrefused =>
    obtain ⟨entity, hentity, rfl⟩ := mem_packages.mp hpackage
    simp [(hentities entity hentity).1] at hrefused
  | type htype hrefused =>
    cases htype with
    | request hentity hoperation =>
      have hfree := (hentities _ hentity).2 _ (Slots.mem_toList.mpr hoperation)
      simp [hfree] at hrefused
    | input hservice _ _ hmethod => simp [(hservices _ hservice _ hmethod).1] at hrefused
    | output hservice _ _ hmethod => simp [(hservices _ hservice _ hmethod).2] at hrefused

/-- The run on a file with plain names and without a keyword in its paths succeeds. -/
theorem generate_item_succeeds :
    IsPlainSet [recordFile "Item"] ∧
      ∃ schema output, resolve [recordFile "Item"] ["records.proto"] = .ok schema ∧
        ¬ SpellsKeyword schema ∧
        generate [recordFile "Item"] ["records.proto"] .default = .ok output := by
  have hmessages : allHavePlainNames (recordFile "Item").messages = true := by
    simp only [recordFile, allHavePlainNames, hasPlainNames]
    decide
  have hplain : IsPlainSet [recordFile "Item"] :=
    ⟨List.forall_mem_singleton.mpr (by decide), List.forall_mem_singleton.mpr hmessages,
      by decide +kernel⟩
  have hpresent : ∀ name ∈ ["records.proto"],
      ∃ file ∈ [recordFile "Item"], file.name = name := by
    decide
  obtain ⟨output, houtput⟩ := generate_itemFile
  obtain ⟨schema, hschema, -, hkeyword⟩ := generate_fails_for_keywords hplain hpresent
  exact ⟨hplain, schema, output, hschema, fun h ↦ hkeyword h output houtput, houtput⟩

end ProtoCrud.Generate
