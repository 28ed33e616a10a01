import ProtoCrud.Proofs.Schema.Resolution
import ProtoCrud.Proofs.Sql.Codec
import ProtoCrud.Text.Cut

/-!
# Enum values read back from their storage

A codec reads a number back from the text that stores it if and only if no earlier entry has taken
that text, at the first entry of the number. The texts of a schema are made from the names of the
values, and different names may make one text: then a value is read back as an earlier one.
-/

namespace ProtoCrud.Schema

open Descriptor (Message Enum File)
open Sql (EnumCodec)
open Text (shoutyCase)

/-- The number of every value of an enum with the text that stores it. -/
def storageTable (enum : Enum) : List (Int32 × String) :=
  enum.values.map fun value ↦
    (value.number, storageName value.name (shoutyCase enum.name ++ "_"))

namespace EnumDef

/-- The number of every variant with the text that stores it. -/
def table (definition : EnumDef) : List (Int32 × String) :=
  definition.variants.map fun variant ↦ (variant.number, variant.storage)

def codec? (definition : EnumDef) : Option EnumCodec :=
  EnumCodec.ofVariants? (String.ofList (Text.afterLastColons definition.path.toList))
    definition.table

end EnumDef

mutual
def declaredInside (scope : String) : Message → List (String × Enum)
  | .mk name _ nested enums =>
    allDeclaredInside (qualified scope name) nested ++
      enums.map fun enum ↦ (qualified (qualified scope name) enum.name, enum)

/-- The enums that several messages declare, by their full names. -/
def allDeclaredInside (scope : String) : List Message → List (String × Enum)
  | [] => []
  | message :: rest => declaredInside scope message ++ allDeclaredInside scope rest
end

def declaredEnums (files : List File) : List (String × Enum) :=
  files.flatMap fun file ↦
    allDeclaredInside (packageScope file.package) file.messages ++
      file.enums.map fun enum ↦ (qualified (packageScope file.package) enum.name, enum)

/-- The last enum that files declare under a full name. -/
def declaredEnum? (files : List File) (fullName : String) : Option Enum :=
  (declaredEnums files).reverse.lookup fullName

def tabulated (entry : String × EnumDef) : String × List (Int32 × String) :=
  (entry.1, entry.2.table)

def declaredTable (entry : String × Enum) : String × List (Int32 × String) :=
  (entry.1, storageTable entry.2)

theorem map_tabulated_enumEntries (scope outer : String) (enums : List Enum) :
    (enumEntries scope outer enums).map tabulated =
      (enums.map fun enum ↦ (qualified scope enum.name, enum)).map declaredTable := by
  rw [enumEntries, List.map_map, List.map_map]
  refine List.map_congr_left fun enum _ ↦ ?_
  simp [tabulated, declaredTable, EnumDef.table, enumDef, storageTable, Function.comp_def]

mutual
theorem map_tabulated_innerEnums (scope outer : String) : (message : Message) →
    (innerEnums scope outer message).map tabulated =
      (declaredInside scope message).map declaredTable
  | .mk name _ nested enums => by
    rw [innerEnums, declaredInside, List.map_append, List.map_append, map_tabulated_enumEntries,
      map_tabulated_allInnerEnums _ _ nested]

theorem map_tabulated_allInnerEnums (scope outer : String) : (messages : List Message) →
    (allInnerEnums scope outer messages).map tabulated =
      (allDeclaredInside scope messages).map declaredTable
  | [] => rfl
  | message :: rest => by
    rw [allInnerEnums, allDeclaredInside, List.map_append, List.map_append,
      map_tabulated_innerEnums _ _ message, map_tabulated_allInnerEnums _ _ rest]
end

/-- The index has the declared enums with their tables, in the order of declaration. -/
theorem map_tabulated_enums (files : List File) :
    (TypeIndex.ofFiles files).enums.map tabulated = (declaredEnums files).map declaredTable := by
  rw [TypeIndex.ofFiles, declaredEnums, List.map_flatMap, List.map_flatMap]
  refine congrArg (files.flatMap ·) (funext fun file ↦ ?_)
  rw [List.map_append, List.map_append, map_tabulated_allInnerEnums, map_tabulated_enumEntries]

theorem lookup_map {β γ : Type} (f : β → γ) (entries : List (String × β)) (key : String) :
    (entries.map fun entry ↦ (entry.1, f entry.2)).lookup key = (entries.lookup key).map f := by
  induction entries with
  | nil => rfl
  | cons entry entries ih =>
    rw [List.map_cons, List.lookup_cons, List.lookup_cons, ih]
    cases key == entry.1 <;> rfl

/-- An enum of the index has the table of the enum declared under its name. -/
theorem exists_declared {files : List File} {name : String} {definition : EnumDef}
    (h : (TypeIndex.ofFiles files).enum? name = some definition) :
    ∃ enum, declaredEnum? files name = some enum ∧ definition.table = storageTable enum := by
  have htables : ((TypeIndex.ofFiles files).enum? name).map EnumDef.table =
      (declaredEnum? files name).map storageTable := by
    rw [TypeIndex.enum?, declaredEnum?, ← lookup_map, ← lookup_map, List.map_reverse,
      List.map_reverse]
    exact congrArg (fun entries ↦ entries.reverse.lookup name) (map_tabulated_enums files)
  rw [h, Option.map_some] at htables
  obtain ⟨enum, hdeclared, htable⟩ := Option.map_eq_some_iff.mp htables.symm
  exact ⟨enum, hdeclared, htable.symm⟩

/-- The enums taken up so far are in the index and have values. -/
def Fields.AreIndexed (index : TypeIndex) (fields : Fields) : Prop :=
  ∀ entry ∈ fields.enums, index.enum? entry.1 = some entry.2 ∧ entry.2.variants ≠ []

/-- One more field takes up at most one more enum, and that one is in the index with values. -/
theorem Fields.enums_add {index : TypeIndex} {fields next : Fields} {field : Field}
    (hadd : fields.add index field = .ok next) :
    next.enums = fields.enums ∨
      ∃ name definition, index.enum? name = some definition ∧ definition.variants ≠ [] ∧
        next.enums = declareEnum fields.enums name definition := by
  rcases Fields.add_cases hadd with ⟨-, rfl⟩ | rfl | ⟨-, rfl⟩ |
    ⟨name, definition, -, hdefinition, hvariants, rfl⟩
  · exact .inl rfl
  · exact .inl rfl
  · exact .inl rfl
  · exact .inr ⟨name, definition, hdefinition, hvariants, rfl⟩

theorem mem_declareEnum {enums : List (String × EnumDef)} {name : String} {definition : EnumDef}
    {entry : String × EnumDef} (h : entry ∈ declareEnum enums name definition) :
    entry ∈ enums ∨ entry = (name, definition) := by
  unfold declareEnum at h
  split at h
  · exact .inl h
  · exact (List.mem_append.mp h).imp_right List.mem_singleton.mp

theorem Fields.AreIndexed.add {index : TypeIndex} {fields next : Fields} {field : Field}
    (h : fields.AreIndexed index) (hadd : fields.add index field = .ok next) :
    next.AreIndexed index := by
  rcases Fields.enums_add hadd with henums | ⟨name, definition, hindex, hvariants, henums⟩
  · rwa [Fields.AreIndexed, henums]
  · intro entry hentry
    rw [henums] at hentry
    rcases mem_declareEnum hentry with hentry | rfl
    · exact h entry hentry
    · exact ⟨hindex, hvariants⟩

theorem resolveEntity_enums {index : TypeIndex} {package name : String} {methods : Slots Method}
    {entity : Entity} (h : resolveEntity index package name methods = .ok entity) :
    ∀ entry ∈ entity.enums, index.enum? entry.1 = some entry.2 ∧ entry.2.variants ≠ [] := by
  obtain ⟨_, fields, _, -, hfields, -, -, rfl⟩ := resolveEntity_cases h
  have hnone : ({} : Fields).AreIndexed index := fun _ hentry ↦ absurd hentry List.not_mem_nil
  have hindexed : fields.AreIndexed index :=
    Fields.addAll_induction (fun _ _ _ _ _ _ h hadd ↦ h.add hadd) hnone hfields
  exact hindexed

/-- The enums of the entities of a resolved schema are in the index and have values. -/
theorem resolve_enums {files : List File} {requested : List String} {schema : Resolution}
    (h : resolve files requested = .ok schema) {entity : Entity}
    (hentity : entity ∈ schema.entities) :
    ∀ entry ∈ entity.enums,
      (TypeIndex.ofFiles files).enum? entry.1 = some entry.2 ∧ entry.2.variants ≠ [] := by
  obtain ⟨_, _, _, hresolve⟩ := exists_resolveEntity h hentity
  exact resolveEntity_enums hresolve

/--
Every enum of a resolved entity has a codec, whose entries are the declared values with the texts
that store them. It reads every declared number back if and only if each value with a number that
no earlier value has is stored by a text that no earlier value has; without aliases, if and only if
no two values are stored by one text.
-/
theorem enumCodec_roundTrips_iff {files : List File} {requested : List String}
    {schema : Resolution} (hschema : resolve files requested = .ok schema) {entity : Entity}
    (hentity : entity ∈ schema.entities) {name : String} {definition : EnumDef}
    (hdefinition : (name, definition) ∈ entity.enums) :
    ∃ enum codec, declaredEnum? files name = some enum ∧ definition.codec? = some codec ∧
      codec.variants = storageTable enum ∧
      (codec.RoundTrips ↔ EnumCodec.IsSeparating (storageTable enum)) ∧
      ((enum.values.map (·.number)).Nodup →
        (codec.RoundTrips ↔ ((storageTable enum).map Prod.snd).Nodup)) := by
  obtain ⟨hindex, hvariants⟩ := resolve_enums hschema hentity _ hdefinition
  obtain ⟨enum, hdeclared, htable⟩ := exists_declared hindex
  have hne : definition.table ≠ [] := by
    simpa [EnumDef.table] using hvariants
  let codec : EnumCodec :=
    ⟨String.ofList (Text.afterLastColons definition.path.toList), definition.table, hne⟩
  have hcodec : definition.codec? = some codec := dif_neg hne
  have hroundTrips : codec.RoundTrips ↔ EnumCodec.IsSeparating (storageTable enum) := by
    rw [EnumCodec.roundTrips_iff, ← htable]
  have hnumbers : (storageTable enum).map Prod.fst = enum.values.map (·.number) := by
    rw [storageTable, List.map_map]
    rfl
  refine ⟨enum, codec, hdeclared, hcodec, htable, hroundTrips, fun hnodup ↦ ?_⟩
  rw [hroundTrips, EnumCodec.isSeparating_iff (hnumbers ▸ hnodup)]

def plainField (name : String) (type : Descriptor.FieldType) (typeName : String) :
    Descriptor.Field :=
  ⟨name, .optional, type, typeName, false, false⟩

/--
A file with an entity that has a status and a priority. One name of a status has its leading text
twice and is in upper case, the other has it once and is in lower case.
-/
def orderFile : File where
  name := "orders.proto"
  package := "shop"
  messages :=
    [.mk "Order"
        [plainField "id" .string "", plainField "status" .enum ".shop.Status",
          plainField "priority" .enum ".shop.Priority"] [] [],
      .mk "GetOrderRequest" [plainField "id" .string ""] [] []]
  enums :=
    [⟨"Status", [⟨"STATUS_STATUS_ACTIVE", 0⟩, ⟨"status_active", 1⟩]⟩,
      ⟨"Priority", [⟨"PRIORITY_LOW", 0⟩, ⟨"PRIORITY_HIGH", 1⟩]⟩]
  services :=
    [⟨"Orders", [⟨"GetOrder", ".shop.GetOrderRequest", ".shop.Order", false, false⟩]⟩]

theorem exists_orders :
    ∃ schema entity status priority,
      resolve [orderFile] ["orders.proto"] = .ok schema ∧ entity ∈ schema.entities ∧
        entity.enums = [(".shop.Status", status), (".shop.Priority", priority)] ∧
        status.table = [(0, "status_active"), (1, "status_active")] ∧
        priority.table = [(0, "low"), (1, "high")] := by
  have htables : (resolve [orderFile] ["orders.proto"]).toOption.map (fun schema ↦
      schema.entities.map fun entity ↦ entity.enums.map tabulated) =
        some [[(".shop.Status", [(0, "status_active"), (1, "status_active")]),
          (".shop.Priority", [(0, "low"), (1, "high")])]] := by
    decide +kernel
  obtain ⟨schema, entity, hresolve, hschema, henums⟩ := exists_entity htables
  obtain ⟨⟨_, status⟩, rest, hfirst, hstatus, hrest⟩ := List.map_eq_cons_iff.mp henums
  obtain ⟨⟨_, priority⟩, more, hsecond, hpriority, hmore⟩ := List.map_eq_cons_iff.mp hrest
  obtain rfl := List.map_eq_nil_iff.mp hmore
  obtain ⟨rfl, hstatus⟩ := Prod.mk.inj hstatus
  obtain ⟨rfl, hpriority⟩ := Prod.mk.inj hpriority
  have hmem : entity ∈ schema.entities := by
    rw [hschema]
    exact List.mem_cons_self
  have hboth : entity.enums = [(".shop.Status", status), (".shop.Priority", priority)] := by
    rw [hfirst, hsecond]
  exact ⟨schema, entity, status, priority, hresolve, hmem, hboth, hstatus, hpriority⟩

/-- Not every codec of a resolved entity reads the declared numbers back. -/
theorem not_forall_roundTrips :
    ¬ ∀ (files : List File) (requested : List String) (schema : Resolution),
      resolve files requested = .ok schema →
        ∀ entity ∈ schema.entities, ∀ entry ∈ entity.enums, ∀ codec,
          entry.2.codec? = some codec → codec.RoundTrips := by
  intro hall
  obtain ⟨schema, entity, status, _, hschema, hentity, henums, htable, -⟩ := exists_orders
  have hne : status.table ≠ [] := by
    rw [htable]
    exact List.cons_ne_nil _ _
  have hentry : (".shop.Status", status) ∈ entity.enums := by
    rw [henums]
    exact List.mem_cons_self
  have hseparating : EnumCodec.IsSeparating status.table :=
    EnumCodec.roundTrips_iff.mp (hall _ _ schema hschema entity hentity _ hentry _ (dif_neg hne))
  rw [htable] at hseparating
  exact hseparating [(0, "status_active")] (1, "status_active") [] rfl (by decide) (by decide)

/-- The priorities of orders are read back. -/
theorem priority_roundTrips :
    ∃ schema entity definition codec,
      resolve [orderFile] ["orders.proto"] = .ok schema ∧ entity ∈ schema.entities ∧
        (".shop.Priority", definition) ∈ entity.enums ∧ definition.codec? = some codec ∧
        codec.RoundTrips := by
  obtain ⟨schema, entity, _, priority, hschema, hentity, henums, -⟩ := exists_orders
  have hentry : (".shop.Priority", priority) ∈ entity.enums := by
    rw [henums]
    exact List.mem_cons_of_mem _ List.mem_cons_self
  obtain ⟨enum, codec, hdeclared, hcodec, -, -, hdistinct⟩ :=
    enumCodec_roundTrips_iff hschema hentity hentry
  obtain rfl : enum = ⟨"Priority", [⟨"PRIORITY_LOW", 0⟩, ⟨"PRIORITY_HIGH", 1⟩]⟩ := by
    have hpriority : declaredEnum? [orderFile] ".shop.Priority" =
        some ⟨"Priority", [⟨"PRIORITY_LOW", 0⟩, ⟨"PRIORITY_HIGH", 1⟩]⟩ := by
      decide +kernel
    exact Option.some.inj (hdeclared.symm.trans hpriority)
  exact ⟨schema, entity, priority, codec, hschema, hentity, hentry, hcodec,
    (hdistinct (by decide)).mpr (by decide +kernel)⟩

end ProtoCrud.Schema
