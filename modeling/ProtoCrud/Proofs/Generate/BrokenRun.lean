import ProtoCrud.Proofs.Generate.LegalCode

/-!
# Runs that break off

A run breaks off for one of two flaws: a name in a piece of its code cannot be an identifier, or the
code of one of its files can be read and not laid out. The first never happens if all names that the
files declare are plain, whatever the types of methods and the options are.
-/

namespace ProtoCrud.Generate

open Code Schema

section Files

variable {files : List Descriptor.File} {requested : List String} {options : Options}
  {schema : Resolution}

/-- A run that succeeds has laid out the code of every file. -/
theorem SpellsFile.exists_formatted {code : List Token} (h : SpellsFile options schema code)
    (hschema : resolve files requested = .ok schema) {output : Output}
    (houtput : generate files requested options = .ok output) :
    ∃ content, formatted? code = some content := by
  obtain ⟨written, hwritten, -⟩ := generate_cases hschema houtput
  have hwrites := (packageFiles_cases hwritten).2
  cases h with
  | entity hentity hcode =>
    obtain ⟨hentities, -⟩ := hwrites _ (mem_packages.mpr ⟨_, hentity, rfl⟩)
    obtain ⟨content, hcontent, -⟩ := hentities _ (mem_entitiesOf.mpr ⟨hentity, rfl⟩)
    obtain ⟨written, hwritten, hlaid⟩ := bind_eq_ok.mp hcontent
    obtain rfl := Except.ok.inj (hwritten.symm.trans hcode)
    exact ⟨content, formattedFile_eq_ok.mp hlaid⟩
  | package hpackage hcode =>
    obtain ⟨-, content, hcontent, -⟩ := hwrites _ hpackage
    obtain ⟨written, hwritten, hlaid⟩ := packageFile_cases hcontent
    obtain rfl := Except.ok.inj (hwritten.symm.trans hcode)
    exact ⟨content, formattedFile_eq_ok.mp hlaid⟩

/-- What breaks a run off is owed to the schema of its files. -/
theorem exists_endsRun {flaw : Flaw}
    (h : generate files requested options = .error (.broken flaw)) :
    ∃ schema, resolve files requested = .ok schema ∧ EndsRun options schema (.broken flaw) := by
  rw [generate] at h
  split at h
  · cases h
  · next schema hschema => exact ⟨schema, hschema, endsOnlyFor_ofSchema options schema _ h⟩

/--
If all names that the files declare are plain, every name in the code of a run is an identifier,
and a run that does not fail breaks off if and only if there is code of a file that can be read and
not laid out.
-/
theorem breaks_off_iff_of_isPlainlyNamed (h : IsPlainlyNamed files) (requested : List String)
    (options : Options) :
    (∀ schema, resolve files requested = .ok schema →
      ∀ code, SpellsNames options schema code → HasLegalNames code) ∧
    ∀ flaw, generate files requested options = .error (.broken flaw) ↔
      flaw = .noLayout ∧ (∀ error, generate files requested options ≠ .error (.failed error)) ∧
        ∃ schema code, resolve files requested = .ok schema ∧ SpellsFile options schema code ∧
          formatted? code = none := by
  have hlegal : ∀ schema, resolve files requested = .ok schema →
      ∀ code, SpellsNames options schema code → HasLegalNames code := by
    intro schema hschema code hcode
    obtain ⟨hentities, hservices⟩ := h.resolve hschema
    exact hcode.hasLegalNames hentities hservices
  have hbreaks {flaw : Flaw} (hbroken : generate files requested options = .error (.broken flaw)) :
      flaw = .noLayout ∧ ∃ schema code, resolve files requested = .ok schema ∧
        SpellsFile options schema code ∧ formatted? code = none := by
    obtain ⟨schema, hschema, hends⟩ := exists_endsRun hbroken
    cases hends with
    | code hfails =>
      cases hfails with
      | name hcode hname =>
        exact absurd hname (illegalName?_ne_some (hlegal schema hschema _ hcode) _)
    | layout hcode hnone => exact ⟨rfl, schema, _, hschema, hcode, hnone⟩
  refine ⟨hlegal, fun flaw ↦ ⟨fun hbroken ↦ ?_, ?_⟩⟩
  · refine ⟨(hbreaks hbroken).1, fun error herror ↦ ?_, (hbreaks hbroken).2⟩
    rw [hbroken] at herror
    cases herror
  · rintro ⟨rfl, hfails, schema, code, hschema, hcode, hnone⟩
    cases hresult : generate files requested options with
    | ok output =>
      obtain ⟨content, hcontent⟩ := hcode.exists_formatted hschema hresult
      rw [hnone] at hcontent
      cases hcontent
    | error abort =>
      cases abort with
      | failed error => exact absurd hresult (hfails error)
      | broken flaw => rw [(hbreaks hresult).1]

/--
If all names that the files declare are plain and all types of their methods are declared, a run
with the default options succeeds if and only if no path is spelled with a keyword and the code of
every file can be laid out.
-/
theorem exists_output_iff_of_isPlainlyNamed (h : IsPlainlyNamed files)
    (hdeclared : ∀ file ∈ files, ∀ service ∈ file.services, ∀ method ∈ service.methods,
      ∀ fullName ∈ [method.input, method.output],
        ((TypeIndex.ofFiles files).message? fullName).isSome = true)
    (hschema : resolve files requested = .ok schema) :
    (∃ output, generate files requested .default = .ok output) ↔
      ¬ SpellsKeyword schema ∧
        ∀ code, SpellsFile .default schema code → (formatted? code).isSome = true := by
  have hspells := exists_failsToSpell_iff (isPlainSet_of_isPlainlyNamed h hdeclared) hschema
  constructor
  · rintro ⟨output, houtput⟩
    refine ⟨fun hkeyword ↦ ?_, fun code hcode ↦ ?_⟩
    · obtain ⟨reason, hfails⟩ := hspells.mpr hkeyword
      have hrun : ofSchema .default schema = .ok output := by
        rw [← houtput, generate, hschema]
      exact not_failsToSpell_of_rendersPackage
        (fun _ ↦ exists_rendersPackage_of_eq_ok hrun) reason hfails
    · exact Option.isSome_iff_exists.mpr (hcode.exists_formatted hschema houtput)
  · rintro ⟨hfree, hformatted⟩
    cases hresult : generate files requested .default with
    | ok output => exact ⟨output, rfl⟩
    | error abort =>
      cases abort with
      | failed error =>
        rw [generate, hschema] at hresult
        obtain ⟨reason, -, hfails⟩ := exists_failsToSpell_of_failed rfl hresult
        exact absurd (hspells.mp ⟨reason, hfails⟩) hfree
      | broken flaw =>
        have hbreaks := ((breaks_off_iff_of_isPlainlyNamed h requested .default).2 flaw).mp hresult
        obtain ⟨-, -, same, code, hsame, hcode, hnone⟩ := hbreaks
        obtain rfl : schema = same := Except.ok.inj (hschema.symm.trans hsame)
        have hsome := hformatted code hcode
        rw [hnone] at hsome
        cases hsome

end Files

/-- Files with plain names, a keyword among them. -/
def noteFiles : List Descriptor.File :=
  [{ name := "key.proto"
     package := "keys"
     messages := [.mk "Key" [⟨"id", .optional, .string, "", false, false⟩] [] []]
     enums := []
     services := [] },
   { name := "note.proto"
     package := "common"
     messages :=
      [.mk "Note" [⟨"id", .optional, .string, "", false, false⟩,
        ⟨"type", .optional, .string, "", false, false⟩] [] []]
     enums := []
     services := [⟨"Notes", [⟨"GetNote", ".keys.Key", ".common.Note", false, false⟩]⟩] }]

/-- A template of a path with an argument that is kept as the code it is. -/
def starredTemplate : Options :=
  ⟨"a<dyn*b>::\x7bpackage\x7d", false⟩

theorem generate_noteFiles :
    generate noteFiles ["note.proto"] starredTemplate = .error (.broken .noLayout) := by
  have hentity : (resolve noteFiles ["note.proto"]).toOption.map (fun schema ↦
      schema.entities.map fun entity ↦ isWritten? (entityCode starredTemplate entity)) =
        some [some false] := by
    decide +kernel
  obtain ⟨schema, entity, hschema, hentities, hwritten⟩ := exists_entity hentity
  rw [generate, hschema]
  exact ofSchema_of_entityFile_error rfl hentities (formattedFile_of_isWritten?_eq_false hwritten)

/-- The run on these files breaks off, although all names in its code are identifiers. -/
theorem noteFiles_break_off :
    IsPlainlyNamed noteFiles ∧
      generate noteFiles ["note.proto"] starredTemplate = .error (.broken .noLayout) ∧
      ∃ schema code, resolve noteFiles ["note.proto"] = .ok schema ∧
        (∀ names, SpellsNames starredTemplate schema names → HasLegalNames names) ∧
        SpellsFile starredTemplate schema code ∧ formatted? code = none := by
  have hmessages : ∀ file ∈ noteFiles, arePlainMessages file.messages = true := by
    simp only [noteFiles, List.forall_mem_cons, arePlainMessages, isPlainMessage]
    decide +kernel
  have hpackages : ∀ file ∈ noteFiles, file.package = "" ∨
      ∀ part ∈ Text.splitAll '.' file.package.toList, Text.isPlainName part = true := by
    decide +kernel
  have hplain : IsPlainlyNamed noteFiles :=
    ⟨hpackages, hmessages, by decide +kernel, by decide +kernel, by decide +kernel⟩
  obtain ⟨hlegal, hbreaks⟩ := breaks_off_iff_of_isPlainlyNamed hplain ["note.proto"] starredTemplate
  obtain ⟨-, -, schema, code, hschema, hcode, hnone⟩ := (hbreaks .noLayout).mp generate_noteFiles
  exact ⟨hplain, generate_noteFiles, schema, code, hschema, hlegal schema hschema, hcode, hnone⟩

end ProtoCrud.Generate
