import ProtoCrud.Proofs.Schema.DeclaredTypes
import ProtoCrud.Proofs.Schema.EnumStorage
import ProtoCrud.Proofs.Schema.ListBinding
import ProtoCrud.Proofs.Schema.MessageFields
import ProtoCrud.Proofs.Schema.MessageShape
import ProtoCrud.Proofs.Schema.TypePaths
import ProtoCrud.Proofs.Schema.Walk
import ProtoCrud.Schema.Classification

/-!
# Schemas with plain names

If all names that files declare are plain, so are all names of the schema that they resolve to:
those of services, methods and entities, of the fields that operations look at, and of the codecs
of enums. An entity is named after a method, a text that is put together from parts of a name, or
after a part of a full name; it is plain since a message of that name is declared.
-/

namespace ProtoCrud.Schema

open Code (behindColons pathChars)
open Descriptor (File Message Enum)
open Text (isPlainName isPlainChar isPlainChar_of_mem exists_cons_of_isPlainName isPlainName_append
  shoutyCase isPlainName_shoutyCase)

/-! ## Declarations -/

mutual
def isPlainMessage : Message → Bool
  | .mk name fields nested enums =>
    isPlainName name.toList && fields.all (fun field ↦ isPlainName field.name.toList) &&
      arePlainMessages nested && enums.all fun enum ↦ isPlainName enum.name.toList

def arePlainMessages : List Message → Bool
  | [] => true
  | message :: rest => isPlainMessage message && arePlainMessages rest
end

/-- Files in which all packages, messages, enums, fields, services and methods have plain names. -/
structure IsPlainlyNamed (files : List File) : Prop where
  packages : ∀ file ∈ files, file.package = "" ∨
    ∀ part ∈ Text.splitAll '.' file.package.toList, isPlainName part = true
  messages : ∀ file ∈ files, arePlainMessages file.messages = true
  enums : ∀ file ∈ files, ∀ enum ∈ file.enums, isPlainName enum.name.toList = true
  services : ∀ file ∈ files, ∀ service ∈ file.services, isPlainName service.name.toList = true
  methods : ∀ file ∈ files, ∀ service ∈ file.services, ∀ method ∈ service.methods,
    isPlainName method.name.toList = true

/-! ## Full names -/

/-- Names in a row, each with a certain character in front. -/
def ledBy (c : Char) (names : List (List Char)) : List Char :=
  names.flatMap (c :: ·)

/-- Whether a text is a row of plain names, each with a dot in front. -/
def IsPlainScope (scope : String) : Prop :=
  ∃ names, (∀ name ∈ names, isPlainName name = true) ∧ scope.toList = ledBy '.' names

theorem ledBy_splitAll (text : List Char) : ledBy '.' (Text.splitAll '.' text) = '.' :: text := by
  have hkept (c : Char) : (if c = '.' then ['.'] else [c]) = [c] := by
    split
    · next hdot => rw [hdot]
    · rfl
  refine (Text.flatMap_splitAll '.' ['.'] text).trans ?_
  simp only [hkept, List.flatMap_singleton']
  rfl

theorem isPlainScope_packageScope {package : String} (h : package = "" ∨
    ∀ part ∈ Text.splitAll '.' package.toList, isPlainName part = true) :
    IsPlainScope (packageScope package) := by
  rw [packageScope]
  split
  · exact ⟨[], List.forall_mem_nil _, rfl⟩
  · next hpackage =>
    refine ⟨_, h.resolve_left hpackage, ?_⟩
    rw [ledBy_splitAll, String.toList_append]
    rfl

theorem IsPlainScope.qualified {scope name : String} (h : IsPlainScope scope)
    (hname : isPlainName name.toList = true) : IsPlainScope (qualified scope name) := by
  obtain ⟨names, hnames, hscope⟩ := h
  refine ⟨names ++ [name.toList], ?_, ?_⟩
  · exact List.forall_mem_append.mpr ⟨hnames, List.forall_mem_singleton.mpr hname⟩
  · simp [Schema.qualified, hscope, ledBy]

/-! ## Entries of the index -/

theorem dot_notMem {name : List Char} (h : isPlainName name = true) : '.' ∉ name :=
  fun hdot ↦ absurd (isPlainChar_of_mem h hdot) (by decide)

theorem arePlainMessages_iff {messages : List Message} :
    arePlainMessages messages = true ↔ ∀ message ∈ messages, isPlainMessage message = true := by
  induction messages with
  | nil => simp [arePlainMessages]
  | cons message rest ih => simp [arePlainMessages, ih]

theorem isPlainMessage_iff {message : Message} :
    isPlainMessage message = true ↔ isPlainName message.name.toList = true ∧
      (∀ field ∈ message.fields, isPlainName field.name.toList = true) ∧
        (∀ inner ∈ message.nested, isPlainMessage inner = true) ∧
          ∀ enum ∈ message.enums, isPlainName enum.name.toList = true := by
  obtain ⟨name, fields, nested, enums⟩ := message
  simp only [isPlainMessage, Bool.and_eq_true, List.all_eq_true, arePlainMessages_iff, and_assoc,
    Message.name, Message.fields, Message.nested, Message.enums]

mutual
theorem hasPlainNames_of_isPlainMessage :
    ∀ {message : Message}, isPlainMessage message = true → hasPlainNames message = true
  | .mk name fields nested enums, h => by
    simp only [isPlainMessage, Bool.and_eq_true] at h
    rw [hasPlainNames, h.1.1.1, allHavePlainNames_of_arePlainMessages h.1.2, Bool.and_true]

theorem allHavePlainNames_of_arePlainMessages :
    ∀ {messages : List Message},
      arePlainMessages messages = true → allHavePlainNames messages = true
  | [], _ => by rw [allHavePlainNames]
  | message :: rest, h => by
    simp only [arePlainMessages, Bool.and_eq_true] at h
    rw [allHavePlainNames, hasPlainNames_of_isPlainMessage h.1,
      allHavePlainNames_of_arePlainMessages h.2, Bool.and_true]
end

structure TypePlace.IsPlain (place : TypePlace) : Prop where
  package : IsPlainScope (packageScope place.package)
  around : ∀ name ∈ place.around, isPlainName name.toList = true
  name : isPlainName place.name.toList = true

theorem TypePlace.IsPlain.fullName {place : TypePlace} (h : place.IsPlain) :
    ∃ scope, IsPlainScope scope ∧ place.fullName = qualified scope place.name := by
  have hscope : IsPlainScope (place.around.foldl qualified (packageScope place.package)) :=
    List.foldlRecOn place.around qualified h.package fun _ hscope name hmem ↦
      hscope.qualified (h.around name hmem)
  exact ⟨_, hscope, (qualified_foldl_qualified place.package place.around place.name).symm⟩

/-- Whether the full name and the path of an enum are made of plain names. -/
def IsPlainEnum (entry : String × EnumDef) : Prop :=
  (∃ scope name, IsPlainScope scope ∧ isPlainName (String.toList name) = true ∧
    entry.1 = qualified scope name) ∧ IsPlainPath entry.2.path

section Index

variable {files : List File}

theorem IsPlainlyNamed.messagePlace (h : IsPlainlyNamed files) {place : TypePlace}
    {message : Message} (hdeclares : DeclaresMessage files place message) :
    place.IsPlain ∧ place.name = message.name ∧ isPlainMessage message = true := by
  cases hdeclares with
  | @nested file around message hfile hnests =>
    obtain ⟨haround, hmessage⟩ :=
      hnests.inherit (P := fun message ↦ isPlainMessage message = true)
        (fun outer houter ↦ (isPlainMessage_iff.mp houter).2.2.1)
        (arePlainMessages_iff.mp (h.messages file hfile))
    have hscope := isPlainScope_packageScope (h.packages file hfile)
    refine ⟨⟨hscope, ?_, (isPlainMessage_iff.mp hmessage).1⟩, rfl, hmessage⟩
    intro name hname
    obtain ⟨outer, houter, rfl⟩ := haround name hname
    exact (isPlainMessage_iff.mp houter).1

theorem IsPlainlyNamed.enumPlace (h : IsPlainlyNamed files) {place : TypePlace} {enum : Enum}
    (hdeclares : DeclaresEnum files place enum) : place.IsPlain := by
  cases hdeclares with
  | @outermost file enum hfile henum =>
    have hscope := isPlainScope_packageScope (h.packages file hfile)
    exact ⟨hscope, List.forall_mem_nil _, h.enums file hfile enum henum⟩
  | @nested outer message enum hmessage henum =>
    obtain ⟨houter, -, hplain⟩ := h.messagePlace hmessage
    have hinside := List.forall_mem_append.mpr
      ⟨houter.around, List.forall_mem_singleton.mpr houter.name⟩
    exact ⟨houter.package, hinside, (isPlainMessage_iff.mp hplain).2.2.2 enum henum⟩

/-- A message that is found has plain names and the last part of the name it is found under. -/
theorem IsPlainlyNamed.message (h : IsPlainlyNamed files) {fullName : String} {message : Message}
    (hmessage : (TypeIndex.ofFiles files).message? fullName = some message) :
    (∃ scope, fullName = qualified scope message.name) ∧ isPlainMessage message = true := by
  obtain ⟨⟨_, type⟩, hentry, rfl⟩ := Option.map_eq_some_iff.mp hmessage
  obtain ⟨place, hdeclares, rfl, -⟩ := exists_place_of_entry hentry
  obtain ⟨hplace, hname, hmessage⟩ := h.messagePlace hdeclares
  obtain ⟨scope, -, hfull⟩ := hplace.fullName
  exact ⟨⟨scope, hname ▸ hfull⟩, hmessage⟩

theorem IsPlainlyNamed.field (h : IsPlainlyNamed files) {fullName : String} {message : Message}
    (hmessage : (TypeIndex.ofFiles files).message? fullName = some message) :
    ∀ field ∈ message.fields, isPlainName field.name.toList = true :=
  (isPlainMessage_iff.mp (h.message hmessage).2).2.1

theorem IsPlainlyNamed.enum (h : IsPlainlyNamed files) {fullName : String} {definition : EnumDef}
    (hdefinition : (TypeIndex.ofFiles files).enum? fullName = some definition) :
    IsPlainEnum (fullName, definition) := by
  obtain ⟨place, enum, hdeclares, rfl, rfl⟩ := exists_place_of_enum? hdefinition
  have hplace := h.enumPlace hdeclares
  obtain ⟨scope, hscope, hfull⟩ := hplace.fullName
  exact ⟨⟨scope, place.name, hscope, hplace.name, hfull⟩,
    isPlainPath_path hplace.around hplace.name⟩

end Index

/-! ## Names of codecs -/

/-- Plain names joined by underscores are a plain name. -/
theorem isPlainName_append_ledBy {first : List Char} {others : List (List Char)}
    (hfirst : isPlainName first = true) (hothers : ∀ name ∈ others, isPlainName name = true) :
    isPlainName (first ++ ledBy '_' others) = true := by
  refine isPlainName_append hfirst fun c hc ↦ ?_
  obtain ⟨name, hname, hc⟩ := List.mem_flatMap.mp hc
  rcases List.mem_cons.mp hc with rfl | hc
  · rfl
  · exact isPlainChar_of_mem (hothers name hname) hc

theorem replaceAll_behindColons {names : List (List Char)}
    (h : ∀ name ∈ names, isPlainName name = true) :
    Text.replaceAll ':' [':'] ['_'] (behindColons names) = ledBy '_' names := by
  induction names with
  | nil => rw [behindColons, List.flatMap_nil, Text.replaceAll]; rfl
  | cons name names ih =>
    obtain ⟨hname, hnames⟩ := List.forall_mem_cons.mp h
    have hcolon : ':' ∉ name := fun hcolon ↦ absurd (isPlainChar_of_mem hname hcolon) (by decide)
    have hsplit : behindColons (name :: names) =
        ':' :: [':'] ++ (name ++ behindColons names) := by
      simp [behindColons]
    rw [hsplit, Text.replaceAll_self_append, Text.replaceAll_append hcolon, ih hnames]
    rfl

theorem isPlainName_pathConstant {path : String} (h : IsPlainPath path) :
    isPlainName (pathConstant path).toList = true := by
  obtain ⟨first, others, hfirst, hothers, rfl⟩ := h
  have hcolon : ':' ∉ first := fun hcolon ↦ absurd (isPlainChar_of_mem hfirst hcolon) (by decide)
  refine isPlainName_shoutyCase ?_
  rw [String.toList_ofList, String.toList_ofList, pathChars, if_neg Bool.false_ne_true,
    List.nil_append, Text.replaceAll_append hcolon, replaceAll_behindColons hothers]
  exact isPlainName_append_ledBy hfirst hothers

theorem map_underscore_ledBy {names : List (List Char)}
    (h : ∀ name ∈ names, isPlainName name = true) :
    (ledBy '.' names).map (fun c ↦ if c = '.' then '_' else c) = ledBy '_' names := by
  induction names with
  | nil => rfl
  | cons name names ih =>
    obtain ⟨hname, hnames⟩ := List.forall_mem_cons.mp h
    have hkept : name.map (fun c ↦ if c = '.' then '_' else c) = name := by
      refine (List.map_congr_left fun c hc ↦ if_neg ?_).trans (List.map_id name)
      rintro rfl
      exact dot_notMem hname hc
    rw [ledBy, List.flatMap_cons, ← ledBy, List.map_append, List.map_cons, hkept, ih hnames]
    rfl

theorem isPlainName_fullNameConstant {fullName : String} (h : IsPlainScope fullName)
    (hne : fullName ≠ "") : isPlainName (fullNameConstant fullName).toList = true := by
  obtain ⟨names, hnames, hfull⟩ := h
  cases names with
  | nil => exact absurd (String.toList_eq_nil_iff.mp hfull) hne
  | cons first others =>
    obtain ⟨hfirst, hothers⟩ := List.forall_mem_cons.mp hnames
    have hmapped := map_underscore_ledBy hnames
    have htrimmed : fullName.toList.dropWhile (· == '.') = first ++ ledBy '.' others := by
      obtain ⟨c, tail, rfl, -, -⟩ := exists_cons_of_isPlainName hfirst
      have hc : c ≠ '.' := fun hdot ↦ dot_notMem hfirst (hdot ▸ List.mem_cons_self)
      simp [hfull, ledBy, hc]
    refine isPlainName_shoutyCase ?_
    rw [ledBy, List.flatMap_cons, ← ledBy, List.cons_append, List.map_cons] at hmapped
    rw [String.toList_ofList, htrimmed, (List.cons.inj hmapped).2]
    exact isPlainName_append_ledBy hfirst hothers

theorem isPlainName_codecName {entity : Entity} (h : ∀ entry ∈ entity.enums, IsPlainEnum entry)
    {enumName codec : String} (hcodec : entity.codecName? enumName = some codec) :
    isPlainName codec.toList = true := by
  obtain ⟨definition, hdefinition, rfl⟩ := Option.map_eq_some_iff.mp hcodec
  obtain ⟨⟨scope, name, hscope, hname, hfull⟩, hpath⟩ := h _ (mem_of_lookup hdefinition)
  change enumName = qualified scope name at hfull
  dsimp only
  split
  · refine isPlainName_fullNameConstant ?_ ?_
    · exact hfull ▸ hscope.qualified hname
    · rintro rfl
      have hempty := congrArg String.toList hfull
      simp [qualified] at hempty
  · exact isPlainName_pathConstant hpath

/-! ## Names of holders -/

theorem isPlainName_holderName {field : Field} (h : isPlainName field.name.toList = true)
    (taken : List String) : isPlainName (holderName field taken).toList = true := by
  have hbase : isPlainName (Text.snakeCase field.name ++ "_str").toList = true := by
    rw [String.toList_append]
    exact isPlainName_append (Text.isPlainName_snakeCase h) (List.all_eq_true.mp (by decide))
  rcases holderName_cases field taken with hname | ⟨number, hname⟩
  · rwa [hname]
  · have hdigits : ∀ c ∈ (toString number).toList, isPlainChar c = true := by
      intro c hc
      rw [Nat.toString_eq_repr, Nat.repr_eq_ofList_toDigits, String.toList_ofList] at hc
      have hdigit := Nat.isDigit_of_mem_toDigits (by decide) (by decide) hc
      simp [isPlainChar, Char.isAlphanum, hdigit]
    rw [hname, String.toList_append, String.toList_append]
    exact isPlainName_append (isPlainName_append hbase (List.all_eq_true.mp (by decide))) hdigits

/-! ## Names of entities -/

theorem mem_of_mem_stripQualifier {c : Char} {name : String}
    (h : c ∈ (stripQualifier name).toList) : c ∈ name.toList := by
  rw [stripQualifier, String.toList_ofList] at h
  exact (cutsAtFirst_stripQualifierChars name.toList).subset h

theorem mem_of_mem_singularize {c : Char} {name : String} (h : c ∈ (singularize name).toList)
    (hy : c ≠ 'y') (hs : c ≠ 's') : c ∈ name.toList := by
  have hstem {ending : String} {stem : List Char} (hstem : stem? ending name.toList = some stem)
      (hc : c ∈ stem) : c ∈ name.toList :=
    (stem?_eq_some_iff.mp hstem).1 ▸ List.mem_append_left _ hc
  unfold singularize at h
  split at h
  · next hfound => exact hstem hfound (by simpa [hy] using h)
  split at h
  · next hfound => exact hstem hfound (by simpa [hs] using h)
  split at h
  · next hfound => exact hstem hfound (by simpa using h)
  · exact h

theorem mem_of_mem_subject {c : Char} {kind : MethodKind} {name subject : String}
    (h : MethodKind.ofMethodName? name = some (kind, subject)) (hc : c ∈ subject.toList) :
    c ∈ name.toList := by
  obtain ⟨other, -, hother⟩ := List.exists_of_findSome?_eq_some h
  obtain ⟨found, hfound, heq⟩ := Option.map_eq_some_iff.mp hother
  obtain rfl : found = subject := (Prod.mk.inj heq).2
  unfold MethodKind.subject? at hfound
  split at hfound
  · next first rest hstart =>
    split at hfound
    · cases hfound
      rw [Text.afterStart?_eq_some_iff.mp hstart]
      exact List.mem_append_right _ (by simpa using hc)
    · cases hfound
  · cases hfound

theorem dot_notMem_of_elementType? {index : TypeIndex} {package fullName entity : String}
    (h : elementType? index package fullName = some entity) : '.' ∉ entity.toList := by
  obtain ⟨message, -, h⟩ := Option.bind_eq_some_iff.mp h
  obtain ⟨field, -, h⟩ := Option.bind_eq_some_iff.mp h
  obtain ⟨⟨scope, name⟩, hsplit, h⟩ := Option.bind_eq_some_iff.mp h
  dsimp only at h
  split at h
  · cases h
    rw [String.toList_ofList]
    exact Text.notMem_of_splitLast? hsplit
  · cases h

/-- A method without a dot in its name is bound to an entity without a dot. -/
theorem dot_notMem_of_bindMethod {index : TypeIndex} {package entity : String}
    {method : Descriptor.Method} {kind : MethodKind} (hname : '.' ∉ method.name.toList)
    (h : bindMethod index package method = .bound kind entity) : '.' ∉ entity.toList := by
  rw [bindMethod] at h
  split at h
  · cases h
  · next subject hsubject =>
    have hplural : '.' ∉ (stripQualifier subject).toList :=
      fun hdot ↦ hname (mem_of_mem_subject hsubject (mem_of_mem_stripQualifier hdot))
    unfold bindList at h
    dsimp only at h
    split at h
    · cases h
      exact fun hdot ↦ hplural (mem_of_mem_singularize hdot (by decide) (by decide))
    split at h
    · cases h
      exact hplural
    split at h
    · next found =>
      cases h
      exact dot_notMem_of_elementType? found
    · cases h
  · next other subject hsubject =>
    split at h
    · cases h
    split at h
    · cases h
      exact fun hdot ↦ hname (mem_of_mem_subject hsubject hdot)
    · cases h

section Index

variable {files : List File}

theorem IsPlainlyNamed.messageName (h : IsPlainlyNamed files) {fullName : String}
    {message : Message} (hmessage : (TypeIndex.ofFiles files).message? fullName = some message) :
    isPlainName message.name.toList = true :=
  (isPlainMessage_iff.mp (h.message hmessage).2).1

/-- A message that is found under a name without a dot has that name. -/
theorem IsPlainlyNamed.name_eq (h : IsPlainlyNamed files) {scope name : String}
    (hname : '.' ∉ name.toList) {message : Message}
    (hmessage : (TypeIndex.ofFiles files).message? (qualified scope name) = some message) :
    message.name = name := by
  obtain ⟨⟨inner, hfull⟩, -⟩ := h.message hmessage
  have hchars (scope name : String) :
      (qualified scope name).toList = scope.toList ++ '.' :: name.toList := by
    simp [qualified]
  have hsplit := congrArg (Text.splitLast? '.' ∘ String.toList) hfull
  simp only [Function.comp_apply, hchars] at hsplit
  rw [Text.splitLast?_append_cons hname,
    Text.splitLast?_append_cons (dot_notMem (h.messageName hmessage))] at hsplit
  exact String.toList_injective (Prod.mk.inj (Option.some.inj hsplit)).2.symm

end Index

/-! ## Resolved schemas -/

structure CrudMethod.IsPlainlyNamed (operation : CrudMethod) : Prop where
  method : isPlainName operation.method.name.toList = true
  search : ∀ field ∈ operation.request.searchField, isPlainName (String.toList field) = true
  carrier : ∀ field ∈ operation.response.entityField, isPlainName (String.toList field) = true

structure Entity.IsPlainlyNamed (entity : Entity) : Prop where
  name : isPlainName entity.name.toList = true
  fields : ∀ field ∈ entity.fields, isPlainName field.name.toList = true
  enums : ∀ entry ∈ entity.enums, IsPlainEnum entry
  operations : ∀ kind operation, entity.methods.at? kind = some operation →
    operation.IsPlainlyNamed

structure Service.IsPlainlyNamed (service : Service) : Prop where
  name : isPlainName service.name.toList = true
  methods : ∀ method ∈ service.methods, isPlainName method.name.toList = true

theorem searchField_add {kind : MethodKind} (shape : RequestShape) (field : Descriptor.Field) :
    (shape.add kind field).searchField = shape.searchField ∨
      (shape.add kind field).searchField = some field.name := by
  unfold RequestShape.add
  dsimp only
  split
  · exact .inl rfl
  split
  · exact .inl rfl
  split
  · exact .inr rfl
  split
  · exact .inl rfl
  split <;> exact .inl rfl

theorem mem_searchField_foldl_add {kind : MethodKind} {fields : List Descriptor.Field}
    {shape : RequestShape} {name : String}
    (h : name ∈ (fields.foldl (RequestShape.add kind) shape).searchField) :
    name ∈ shape.searchField ∨ ∃ field ∈ fields, field.name = name := by
  induction fields generalizing shape with
  | nil => exact .inl h
  | cons field fields ih =>
    rcases ih h with hfirst | ⟨other, hother, hname⟩
    · rcases searchField_add shape field with heq | heq <;> rw [heq] at hfirst
      · exact .inl hfirst
      · exact .inr ⟨field, List.mem_cons_self, Option.some.inj hfirst⟩
    · exact .inr ⟨other, List.mem_cons_of_mem field hother, hname⟩

section Resolved

variable {files : List File} {requested : List String} {schema : Resolution} {entity : Entity}

theorem IsPlainlyNamed.holdsOfDeclared (h : IsPlainlyNamed files) :
    HoldsOfDeclared (TypeIndex.ofFiles files) files fun _ method ↦
      isPlainName method.name.toList = true :=
  fun file hfile service hservice method hmethod _ ↦
    h.methods file hfile service hservice method hmethod

theorem IsPlainlyNamed.entityName (h : IsPlainlyNamed files)
    (hschema : resolve files requested = .ok schema) (hentity : entity ∈ schema.entities) :
    isPlainName entity.name.toList = true := by
  obtain ⟨targets, walk, services, htargets, hwalk, hentities, -⟩ := resolve_cases hschema
  obtain ⟨package, name, hname, hresolve⟩ := exists_of_mem_resolveEntities (hentities ▸ hentity)
  obtain ⟨message, _, _, hmessage, -, -, -, rfl⟩ := resolveEntity_cases hresolve
  obtain ⟨place, hplace, hkey⟩ := List.mem_map.mp (List.mem_eraseDups.mp hname)
  obtain ⟨rfl, rfl⟩ := Prod.mk.inj hkey
  have hindex := keepsNames_ofFiles files
  have hfills := (walked_walkFiles hindex targets).fills
  have hdeclared : HoldsOfDeclared (TypeIndex.ofFiles files) targets fun _ method ↦
      isPlainName method.name.toList = true :=
    fun file hfile ↦ h.holdsOfDeclared file (requestedFiles_subset htargets file hfile)
  have hempty : Walk.Holds {} fun _ method ↦ isPlainName method.name.toList = true :=
    List.forall_mem_nil _
  have hholds := (walkFiles_holds hempty hdeclared).1
  rw [hwalk] at hfills hholds
  have hdot : '.' ∉ place.entity.toList :=
    dot_notMem_of_bindMethod (dot_notMem (hholds place hplace)) (hfills place hplace).2
  exact h.name_eq hdot hmessage ▸ h.messageName hmessage

theorem IsPlainlyNamed.operation (h : IsPlainlyNamed files)
    (hschema : resolve files requested = .ok schema) (hentity : entity ∈ schema.entities)
    {kind : MethodKind} {operation : CrudMethod}
    (hoperation : entity.methods.at? kind = some operation) : operation.IsPlainlyNamed := by
  obtain ⟨input, output, hinput, houtput, hrequest, hresponse⟩ :=
    exists_messages hschema hentity hoperation
  refine ⟨((resolve_holds hschema h.holdsOfDeclared).2 entity hentity).2 kind operation hoperation,
    fun name hname ↦ ?_, fun name hname ↦ ?_⟩
  · obtain ⟨hshape, -⟩ := requestShape_eq_ok hrequest
    rw [hshape] at hname
    rcases mem_searchField_foldl_add hname with hnone | ⟨field, hfield, rfl⟩
    · cases hnone
    · exact h.field hinput field hfield
  · rcases responseShape_cases hresponse with ⟨-, -, hshape⟩ | ⟨hshape, -⟩
    · rw [hshape] at hname
      cases hname
    · rw [hshape, entityField_foldl_add, Option.none_or] at hname
      obtain ⟨field, hfield, rfl⟩ := Option.map_eq_some_iff.mp hname
      have hmem := List.mem_of_find?_eq_some hfield
      rcases houtput with houtput | ⟨-, -, rfl⟩
      · exact h.field houtput field hmem
      · cases hmem

/-- The entities and services of files with plain names have plain names throughout. -/
theorem IsPlainlyNamed.resolve (h : IsPlainlyNamed files)
    (hschema : resolve files requested = .ok schema) :
    (∀ entity ∈ schema.entities, entity.IsPlainlyNamed) ∧
      ∀ service ∈ schema.services, service.IsPlainlyNamed := by
  constructor
  · intro entity hentity
    refine ⟨h.entityName hschema hentity, fun field hfield ↦ ?_, fun entry hentry ↦ ?_,
      fun kind operation ↦ h.operation hschema hentity⟩
    · obtain ⟨package, name, methods, hresolve⟩ := exists_resolveEntity hschema hentity
      obtain ⟨message, fields, _, hmessage, hadded, -, -, rfl⟩ := resolveEntity_cases hresolve
      obtain ⟨descriptor, hdescriptor, hmade⟩ := Fields.exists_descriptor hadded field hfield
      rw [(column_ofDescriptor hmade).1]
      exact h.field hmessage descriptor hdescriptor
    · exact h.enum (resolve_enums hschema hentity entry hentry).1
  · intro service hservice
    refine ⟨?_, (resolve_holds hschema h.holdsOfDeclared).1 service hservice⟩
    obtain ⟨targets, walk, services, htargets, hwalk, -, hservices⟩ := resolve_cases hschema
    obtain ⟨whole, hwhole, rfl⟩ := List.mem_map.mp (hservices ▸ hservice)
    have hdeclared := declared_walkFiles (TypeIndex.ofFiles files) {} targets
    rw [hwalk] at hdeclared
    have hmem := hdeclared ▸ List.mem_map_of_mem (f := Service.declared) hwhole
    obtain ⟨file, hfile, hmem⟩ := List.mem_flatMap.mp hmem
    obtain ⟨descriptor, hdescriptor, heq⟩ := List.mem_map.mp hmem
    have hname : descriptor.name = whole.name := congrArg Service.name heq
    exact hname ▸ h.services file (requestedFiles_subset htargets file hfile) descriptor hdescriptor

end Resolved

end ProtoCrud.Schema
