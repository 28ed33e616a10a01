import ProtoCrud.Proofs.Schema.Resolution

/-!
# The types that files declare

A type is declared in a package and behind the names of the messages around it. Its full name
joins all of these by dots, and the path of its generated type joins the names of the messages in
snake case and its own in camel case. The index is built in one walk that extends two scopes at
once; what it lists is described here by the places of the declarations alone. If no two of them
share a full name, the index answers with exactly what is declared.
-/

namespace ProtoCrud.Schema

open Descriptor (Message Enum File)
open Text (snakeCase shoutyCase camelCase)

structure TypePlace where
  package : String
  /-- The names of the messages around the declaration, from the outermost. -/
  around : List String
  name : String

namespace TypePlace

/-- The full name of the type: a dot in front of each name, and of the package if there is one. -/
def fullName (place : TypePlace) : String :=
  let package := if place.package = "" then [] else [place.package]
  ".".intercalate ("" :: package ++ place.around ++ [place.name])

def path (place : TypePlace) : String :=
  "::".intercalate (place.around.map snakeCase ++ [camelCase place.name])

def typeRef (place : TypePlace) : TypeRef :=
  ⟨place.fullName, place.package, place.path⟩

/-- The definition of an enum, with the texts that store its values in the order of declaration. -/
def enumDef (place : TypePlace) (enum : Enum) : EnumDef :=
  { fullName := place.fullName
    path := place.path
    variants := enum.values.map fun value ↦
      ⟨value.name, value.number, storageName value.name (shoutyCase enum.name ++ "_")⟩ }

def inside (place : TypePlace) (name : String) : TypePlace :=
  ⟨place.package, place.around ++ [place.name], name⟩

end TypePlace

/--
A message is one of some messages or declared inside one of them; the names are those of the
messages around it, from the outermost.
-/
inductive Nests : List Message → List String → Message → Prop
  | outermost {messages : List Message} {message : Message} (hmessage : message ∈ messages) :
    Nests messages [] message
  | inside {messages : List Message} {outer message : Message} {around : List String}
      (houter : outer ∈ messages) (hinner : Nests outer.nested around message) :
    Nests messages (outer.name :: around) message

theorem Nests.mono {messages others : List Message} {around : List String} {message : Message}
    (h : Nests messages around message) (hsubset : messages ⊆ others) :
    Nests others around message := by
  cases h with
  | outermost hmessage => exact .outermost (hsubset hmessage)
  | inside houter hinner => exact .inside (hsubset houter) hinner

/-- What messages hand down to those inside them holds of a nested one and of all around it. -/
theorem Nests.inherit {P : Message → Prop}
    (hnested : ∀ outer, P outer → ∀ inner ∈ outer.nested, P inner) {messages : List Message}
    {around : List String} {message : Message} (h : Nests messages around message)
    (hmessages : ∀ outer ∈ messages, P outer) :
    (∀ name ∈ around, ∃ outer, P outer ∧ outer.name = name) ∧ P message := by
  induction h with
  | outermost hmessage => exact ⟨List.forall_mem_nil _, hmessages _ hmessage⟩
  | inside houter _ ih =>
    have hfirst := hmessages _ houter
    obtain ⟨haround, hmessage⟩ := ih (hnested _ hfirst)
    exact ⟨List.forall_mem_cons.mpr ⟨⟨_, hfirst, rfl⟩, haround⟩, hmessage⟩

inductive DeclaresMessage (files : List File) : TypePlace → Message → Prop
  | nested {file : File} {around : List String} {message : Message} (hfile : file ∈ files)
    (hnests : Nests file.messages around message) :
    DeclaresMessage files ⟨file.package, around, message.name⟩ message

inductive DeclaresEnum (files : List File) : TypePlace → Enum → Prop
  | outermost {file : File} {enum : Enum} (hfile : file ∈ files) (henum : enum ∈ file.enums) :
    DeclaresEnum files ⟨file.package, [], enum.name⟩ enum
  | nested {place : TypePlace} {message : Message} {enum : Enum}
    (hmessage : DeclaresMessage files place message) (henum : enum ∈ message.enums) :
    DeclaresEnum files (place.inside enum.name) enum

mutual
def placed (package : String) (around : List String) : Message → List (TypePlace × Message)
  | .mk name fields nested enums =>
    allPlaced package (around ++ [name]) nested ++
      [(⟨package, around, name⟩, .mk name fields nested enums)]

def allPlaced (package : String) (around : List String) :
    List Message → List (TypePlace × Message)
  | [] => []
  | message :: rest => placed package around message ++ allPlaced package around rest
end

def messagePlaces (files : List File) : List (TypePlace × Message) :=
  files.flatMap fun file ↦ allPlaced file.package [] file.messages

def placedEnums (declared : TypePlace × Message) : List (TypePlace × Enum) :=
  declared.2.enums.map fun enum ↦ (declared.1.inside enum.name, enum)

def enumPlaces (files : List File) : List (TypePlace × Enum) :=
  files.flatMap fun file ↦
    (allPlaced file.package [] file.messages).flatMap placedEnums ++
      file.enums.map fun enum ↦ (⟨file.package, [], enum.name⟩, enum)

section Declared

variable {package : String} {outer : List String} {messages : List Message} {files : List File}
  {place : TypePlace} {message : Message}

theorem allPlaced_eq_flatMap (package : String) (outer : List String) (messages : List Message) :
    allPlaced package outer messages = messages.flatMap (placed package outer) := by
  induction messages with
  | nil => rfl
  | cons message rest ih => rw [allPlaced, List.flatMap_cons, ih]

mutual
theorem exists_nests_of_mem_placed (package : String) (outer : List String) :
    (message : Message) → ∀ declared ∈ placed package outer message,
      ∃ around, Nests [message] around declared.2 ∧
        declared.1 = ⟨package, outer ++ around, declared.2.name⟩
  | .mk name fields nested enums => by
    intro declared hdeclared
    rw [placed] at hdeclared
    rcases List.mem_append.mp hdeclared with hdeclared | hdeclared
    · obtain ⟨around, hnests, hplace⟩ :=
        exists_nests_of_mem_allPlaced _ _ nested declared hdeclared
      have hinner : Nests (Message.mk name fields nested enums).nested around declared.2 := hnests
      refine ⟨name :: around, .inside (List.mem_singleton_self _) hinner, ?_⟩
      rw [hplace, List.append_assoc, List.singleton_append]
    · obtain rfl := List.mem_singleton.mp hdeclared
      exact ⟨[], .outermost (List.mem_singleton_self _), by rw [List.append_nil]; rfl⟩

theorem exists_nests_of_mem_allPlaced (package : String) (outer : List String) :
    (messages : List Message) → ∀ declared ∈ allPlaced package outer messages,
      ∃ around, Nests messages around declared.2 ∧
        declared.1 = ⟨package, outer ++ around, declared.2.name⟩
  | [] => by simp [allPlaced]
  | message :: rest => by
    intro declared hdeclared
    rw [allPlaced] at hdeclared
    rcases List.mem_append.mp hdeclared with hdeclared | hdeclared
    · obtain ⟨around, hnests, hplace⟩ :=
        exists_nests_of_mem_placed _ _ message declared hdeclared
      exact ⟨around, hnests.mono (by simp), hplace⟩
    · obtain ⟨around, hnests, hplace⟩ :=
        exists_nests_of_mem_allPlaced _ _ rest declared hdeclared
      exact ⟨around, hnests.mono (List.subset_cons_self _ _), hplace⟩
end

/-- A nested message is placed behind the names of the messages around it. -/
theorem Nests.mem_allPlaced {around : List String} (h : Nests messages around message)
    (package : String) (outer : List String) :
    (⟨package, outer ++ around, message.name⟩, message) ∈ allPlaced package outer messages := by
  induction h generalizing outer with
  | @outermost messages message hmessage =>
    rw [allPlaced_eq_flatMap, List.append_nil]
    refine List.mem_flatMap.mpr ⟨message, hmessage, ?_⟩
    obtain ⟨name, fields, nested, enums⟩ := message
    exact List.mem_append_right _ (List.mem_singleton_self _)
  | @inside messages first message around hfirst _ ih =>
    rw [allPlaced_eq_flatMap]
    refine List.mem_flatMap.mpr ⟨first, hfirst, ?_⟩
    have hinner := ih (outer ++ [first.name])
    rw [List.append_assoc, List.singleton_append] at hinner
    obtain ⟨name, fields, nested, enums⟩ := first
    exact List.mem_append_left _ hinner

/-- The messages at any depth are listed with their places. -/
theorem mem_messagePlaces_iff :
    (place, message) ∈ messagePlaces files ↔ DeclaresMessage files place message := by
  rw [messagePlaces, List.mem_flatMap]
  constructor
  · rintro ⟨file, hfile, hmem⟩
    obtain ⟨around, hnests, hplace⟩ := exists_nests_of_mem_allPlaced _ _ _ _ hmem
    dsimp only [List.nil_append] at hnests hplace
    exact hplace ▸ .nested hfile hnests
  · rintro ⟨hfile, hnests⟩
    exact ⟨_, hfile, hnests.mem_allPlaced _ []⟩

/-- The enums at any depth are listed with their places. -/
theorem mem_enumPlaces_iff {enum : Enum} :
    (place, enum) ∈ enumPlaces files ↔ DeclaresEnum files place enum := by
  simp only [enumPlaces, List.mem_flatMap, List.mem_append, List.mem_map]
  constructor
  · rintro ⟨file, hfile, ⟨⟨around, message⟩, hmessage, henum⟩ | ⟨other, hother, heq⟩⟩
    · obtain ⟨other, hother, heq⟩ := List.mem_map.mp henum
      cases heq
      refine .nested (mem_messagePlaces_iff.mp ?_) hother
      exact List.mem_flatMap.mpr ⟨file, hfile, hmessage⟩
    · cases heq
      exact .outermost hfile hother
  · rintro (⟨hfile, henum⟩ | ⟨hmessage, henum⟩)
    · exact ⟨_, hfile, .inr ⟨enum, henum, rfl⟩⟩
    · obtain ⟨file, hfile, hmem⟩ :=
        List.mem_flatMap.mp (mem_messagePlaces_iff.mpr hmessage)
      exact ⟨file, hfile, .inl ⟨_, hmem, List.mem_map.mpr ⟨enum, henum, rfl⟩⟩⟩

end Declared

theorem foldl_qualified (scope : String) (names : List String) :
    names.foldl qualified scope = ".".intercalate (scope :: names) := by
  induction names generalizing scope with
  | nil => exact String.intercalate_singleton.symm
  | cons name rest ih =>
    rw [List.foldl_cons, ih, qualified, String.intercalate_cons_append,
      String.intercalate_cons_cons]

/-- The scopes around a declaration make its full name. -/
theorem qualified_foldl_qualified (package : String) (around : List String) (name : String) :
    qualified (around.foldl qualified (packageScope package)) name =
      TypePlace.fullName ⟨package, around, name⟩ := by
  have hscope : packageScope package =
      (if package = "" then [] else [package]).foldl qualified "" := by
    rw [packageScope]
    split
    · rfl
    · rw [List.foldl_cons, List.foldl_nil, qualified, String.empty_append]
  calc qualified (around.foldl qualified (packageScope package)) name
    _ = (around ++ [name]).foldl qualified (packageScope package) :=
      (List.foldl_concat ..).symm
    _ = ((if package = "" then [] else [package]) ++ (around ++ [name])).foldl qualified "" := by
      rw [hscope, ← List.foldl_append]
    _ = TypePlace.fullName ⟨package, around, name⟩ := by
      rw [foldl_qualified, ← List.append_assoc]
      rfl

theorem foldl_innerModule_append (outer : String) (around : List String) (type : String) :
    around.foldl innerModule outer ++ type =
      outer ++ "::".intercalate (around.map snakeCase ++ [type]) := by
  induction around generalizing outer with
  | nil => rw [List.foldl_nil, List.map_nil, List.nil_append, String.intercalate_singleton]
  | cons first rest ih =>
    rw [List.foldl_cons, ih, List.map_cons, List.cons_append,
      String.intercalate_cons_of_ne_nil (by simp), innerModule]
    simp only [String.append_assoc]

/-- The modules around a declaration make the path of its type. -/
theorem foldl_innerModule (package : String) (around : List String) (name : String) :
    around.foldl innerModule "" ++ camelCase name = TypePlace.path ⟨package, around, name⟩ := by
  rw [foldl_innerModule_append, String.empty_append]
  rfl

def messageEntry (declared : TypePlace × Message) : String × Message × TypeRef :=
  (declared.1.fullName, declared.2, declared.1.typeRef)

def enumEntry (declared : TypePlace × Enum) : String × EnumDef :=
  (declared.1.fullName, declared.1.enumDef declared.2)

mutual
theorem messageEntries_eq_map (package : String) (around : List String) : (message : Message) →
    messageEntries package (around.foldl qualified (packageScope package))
      (around.foldl innerModule "") message = (placed package around message).map messageEntry
  | .mk name fields nested enums => by
    rw [messageEntries, placed, List.map_append, ← List.foldl_concat qualified,
      ← List.foldl_concat innerModule, allMessageEntries_eq_map, List.foldl_concat,
      qualified_foldl_qualified, foldl_innerModule package]
    rfl

theorem allMessageEntries_eq_map (package : String) (around : List String) :
    (messages : List Message) →
    allMessageEntries package (around.foldl qualified (packageScope package))
      (around.foldl innerModule "") messages = (allPlaced package around messages).map messageEntry
  | [] => rfl
  | message :: rest => by
    rw [allMessageEntries, allPlaced, List.map_append, messageEntries_eq_map,
      allMessageEntries_eq_map]
end

theorem enumEntries_eq_map (package : String) (around : List String) (enums : List Enum) :
    enumEntries (around.foldl qualified (packageScope package)) (around.foldl innerModule "")
        enums =
      (enums.map fun enum ↦ (TypePlace.mk package around enum.name, enum)).map enumEntry := by
  rw [enumEntries, List.map_map]
  refine List.map_congr_left fun enum _ ↦ ?_
  rw [enumDef, qualified_foldl_qualified, foldl_innerModule package]
  rfl

mutual
theorem innerEnums_eq_map (package : String) (around : List String) : (message : Message) →
    innerEnums (around.foldl qualified (packageScope package)) (around.foldl innerModule "")
      message = ((placed package around message).flatMap placedEnums).map enumEntry
  | .mk name fields nested enums => by
    rw [innerEnums, placed, List.flatMap_append, List.map_append,
      ← List.foldl_concat qualified, ← List.foldl_concat innerModule,
      allInnerEnums_eq_map, enumEntries_eq_map, List.flatMap_singleton]
    rfl

theorem allInnerEnums_eq_map (package : String) (around : List String) :
    (messages : List Message) →
    allInnerEnums (around.foldl qualified (packageScope package)) (around.foldl innerModule "")
      messages = ((allPlaced package around messages).flatMap placedEnums).map enumEntry
  | [] => rfl
  | message :: rest => by
    rw [allInnerEnums, allPlaced, List.flatMap_append, List.map_append, innerEnums_eq_map,
      allInnerEnums_eq_map]
end

/-- The index lists what files declare by the places of the declarations. -/
theorem messages_ofFiles (files : List File) :
    (TypeIndex.ofFiles files).messages = (messagePlaces files).map messageEntry := by
  rw [TypeIndex.ofFiles, messagePlaces, List.map_flatMap]
  refine List.flatMap_congr fun file _ ↦ ?_
  exact allMessageEntries_eq_map file.package [] file.messages

theorem enums_ofFiles (files : List File) :
    (TypeIndex.ofFiles files).enums = (enumPlaces files).map enumEntry := by
  rw [TypeIndex.ofFiles, enumPlaces, List.map_flatMap]
  refine List.flatMap_congr fun file _ ↦ ?_
  rw [List.map_append]
  exact congrArg₂ _ (allInnerEnums_eq_map file.package [] file.messages)
    (enumEntries_eq_map file.package [] file.enums)

structure HaveDistinctNames (files : List File) : Prop where
  messages : ((messagePlaces files).map (·.1.fullName)).Nodup
  enums : ((enumPlaces files).map (·.1.fullName)).Nodup

/-- An index that finds what files declare, by its names, and nothing else. -/
structure TypeIndex.IsExact (index : TypeIndex) (files : List File) : Prop where
  /-- A declared message is found with the names of its generated type. -/
  message : ∀ place message, DeclaresMessage files place message →
    index.message? place.fullName = some message ∧ index.typeRef place.fullName = place.typeRef
  /-- A declared enum is found with its values and the texts that store them. -/
  enum : ∀ place enum, DeclaresEnum files place enum →
    index.enum? place.fullName = some (place.enumDef enum)
  noMessage : ∀ fullName, (∀ place message, DeclaresMessage files place message →
    place.fullName ≠ fullName) → index.message? fullName = none
  noEnum : ∀ fullName, (∀ place enum, DeclaresEnum files place enum →
    place.fullName ≠ fullName) → index.enum? fullName = none

section Lookups

variable {files : List File} {fullName : String}

/-- What is found under a name is declared under it, also if other declarations share the name. -/
theorem exists_place_of_entry {message : Message} {type : TypeRef}
    (h : TypeIndex.entry? (TypeIndex.ofFiles files) fullName = some (message, type)) :
    ∃ place, DeclaresMessage files place message ∧ place.fullName = fullName ∧
      place.typeRef = type := by
  have hmem := List.mem_reverse.mp (mem_of_lookup h)
  rw [messages_ofFiles] at hmem
  obtain ⟨⟨place, _⟩, hdeclared, heq⟩ := List.mem_map.mp hmem
  cases heq
  exact ⟨place, mem_messagePlaces_iff.mp hdeclared, rfl, rfl⟩

theorem exists_place_of_enum? {definition : EnumDef}
    (h : (TypeIndex.ofFiles files).enum? fullName = some definition) :
    ∃ place enum, DeclaresEnum files place enum ∧ place.fullName = fullName ∧
      place.enumDef enum = definition := by
  have hmem := List.mem_reverse.mp (mem_of_lookup h)
  rw [enums_ofFiles] at hmem
  obtain ⟨⟨place, enum⟩, hdeclared, heq⟩ := List.mem_map.mp hmem
  cases heq
  exact ⟨place, enum, mem_enumPlaces_iff.mp hdeclared, rfl, rfl⟩

theorem entry_ofFiles_eq_some_iff (h : HaveDistinctNames files) {message : Message}
    {type : TypeRef} : TypeIndex.entry? (TypeIndex.ofFiles files) fullName = some (message, type) ↔
      ∃ place, DeclaresMessage files place message ∧ place.fullName = fullName ∧
        place.typeRef = type := by
  have hkeys : (((messagePlaces files).map messageEntry).map Prod.fst).Nodup := by
    rw [List.map_map]
    exact h.messages
  constructor
  · exact exists_place_of_entry
  · rintro ⟨place, hdeclares, rfl, rfl⟩
    rw [TypeIndex.entry?, messages_ofFiles, lookup_reverse_eq_some_iff hkeys]
    exact List.mem_map_of_mem (f := messageEntry) (mem_messagePlaces_iff.mpr hdeclares)

theorem enum?_ofFiles_eq_some_iff (h : HaveDistinctNames files) {definition : EnumDef} :
    (TypeIndex.ofFiles files).enum? fullName = some definition ↔
      ∃ place enum, DeclaresEnum files place enum ∧ place.fullName = fullName ∧
        place.enumDef enum = definition := by
  have hkeys : (((enumPlaces files).map enumEntry).map Prod.fst).Nodup := by
    rw [List.map_map]
    exact h.enums
  constructor
  · exact exists_place_of_enum?
  · rintro ⟨place, enum, hdeclares, rfl, rfl⟩
    rw [TypeIndex.enum?, enums_ofFiles, lookup_reverse_eq_some_iff hkeys]
    exact List.mem_map_of_mem (f := enumEntry) (mem_enumPlaces_iff.mpr hdeclares)

/--
If no two declarations share a full name, the index finds exactly what is declared: every message
and every enum, in whatever file and at whatever depth, by its package and the names around it,
with the path of its generated type, a message as it is declared and an enum with its values in
order and the texts that store them; under any other name it finds nothing.
-/
theorem ofFiles_isExact (h : HaveDistinctNames files) :
    (TypeIndex.ofFiles files).IsExact files where
  message place message hdeclares := by
    have hentry := (entry_ofFiles_eq_some_iff h).mpr ⟨place, hdeclares, rfl, rfl⟩
    exact ⟨by rw [TypeIndex.message?, hentry, Option.map_some], by rw [TypeIndex.typeRef, hentry]⟩
  enum place enum hdeclares := (enum?_ofFiles_eq_some_iff h).mpr ⟨place, enum, hdeclares, rfl, rfl⟩
  noMessage fullName hnone := by
    rw [TypeIndex.message?, Option.map_eq_none_iff, Option.eq_none_iff_forall_ne_some]
    rintro ⟨message, type⟩ hentry
    obtain ⟨place, hdeclares, hname, -⟩ := (entry_ofFiles_eq_some_iff h).mp hentry
    exact hnone place message hdeclares hname
  noEnum fullName hnone := by
    rw [Option.eq_none_iff_forall_ne_some]
    intro definition hdefinition
    obtain ⟨place, enum, hdeclares, hname, -⟩ := (enum?_ofFiles_eq_some_iff h).mp hdefinition
    exact hnone place enum hdeclares hname

end Lookups

/-- A file with an enum two messages deep, and with two enums of one name. -/
def musicFile : File where
  name := "music.proto"
  package := "music.store"
  messages :=
    [.mk "Album" [] [.mk "DiscSet" [] [] [⟨"Format", [⟨"FORMAT_CD", 0⟩, ⟨"FORMAT_LP", 1⟩]⟩]]
      [⟨"Mood", [⟨"MOOD_CALM", 0⟩]⟩]]
  enums := [⟨"Mood", [⟨"MOOD_DARK", 0⟩]⟩]
  services := []

/-- A file without a package, whose message has the name of one in the other file. -/
def looseFile : File where
  name := "loose.proto"
  package := ""
  messages := [.mk "Album" [] [] []]
  enums := []
  services := []

/-- What the files declare is found by its full name, and the name of an enum is no message. -/
theorem ofFiles_music_isExact :
    HaveDistinctNames [musicFile, looseFile] ∧
      (TypeIndex.ofFiles [musicFile, looseFile]).typeRef ".music.store.Album.DiscSet" =
        ⟨".music.store.Album.DiscSet", "music.store", "album::DiscSet"⟩ ∧
      (TypeIndex.ofFiles [musicFile, looseFile]).typeRef ".Album" = ⟨".Album", "", "Album"⟩ ∧
      (TypeIndex.ofFiles [musicFile, looseFile]).enum? ".music.store.Album.DiscSet.Format" =
        some ⟨".music.store.Album.DiscSet.Format", "album::disc_set::Format",
          [⟨"FORMAT_CD", 0, "cd"⟩, ⟨"FORMAT_LP", 1, "lp"⟩]⟩ ∧
      (TypeIndex.ofFiles [musicFile, looseFile]).message? ".music.store.Mood" = none := by
  have hdistinct : HaveDistinctNames [musicFile, looseFile] :=
    ⟨by decide +kernel, by decide +kernel⟩
  have hexact := ofFiles_isExact hdistinct
  have hmusic : musicFile ∈ [musicFile, looseFile] := List.mem_cons_self
  have hloose : looseFile ∈ [musicFile, looseFile] := List.mem_cons_of_mem _ List.mem_cons_self
  have hdiscSet : DeclaresMessage [musicFile, looseFile] ⟨"music.store", ["Album"], "DiscSet"⟩ _ :=
    .nested hmusic (.inside List.mem_cons_self (.outermost List.mem_cons_self))
  have halbum : DeclaresMessage [musicFile, looseFile] ⟨"", [], "Album"⟩ _ :=
    .nested hloose (.outermost List.mem_cons_self)
  have hformat : DeclaresEnum [musicFile, looseFile]
      ⟨"music.store", ["Album", "DiscSet"], "Format"⟩ _ := .nested hdiscSet List.mem_cons_self
  have hmood : ∀ declared ∈ messagePlaces [musicFile, looseFile],
      declared.1.fullName ≠ ".music.store.Mood" := by decide +kernel
  refine ⟨hdistinct, (hexact.message _ _ hdiscSet).2.trans ?_,
    (hexact.message _ _ halbum).2.trans ?_, (hexact.enum _ _ hformat).trans ?_,
    hexact.noMessage _ fun place message hdeclares ↦ ?_⟩
  · decide +kernel
  · decide +kernel
  · decide +kernel
  · exact hmood _ (mem_messagePlaces_iff.mpr hdeclares)

end ProtoCrud.Schema
