import Mathlib.Data.Finset.Card
import Mathlib.Data.Nat.Find
import ProtoCrud.Proofs.Schema.MessageFields
import ProtoCrud.Schema.Classification

/-!
# Names under which the texts of enums are held

The column of an enum field is held as a text under a name of its own. The search for that name
tries a base and then the base with the numbers from two on, and goes on for as long as the
candidate is taken, without a limit of its own. It ends all the same: the candidates differ, so it
gives up at most as many of them as there are taken names. All fields of the entity are taken from
the start and every holder from then on, so no two holders are the same and none is a field.
-/

namespace ProtoCrud.Schema

open Text (snakeCase)

def holderCandidate (base : String) : Nat → String
  | 0 => base
  | tried + 1 => base ++ "_" ++ toString (tried + 2)

/-- The state of a search: the candidate in hand and the number of the next one. -/
structure HolderSearch where
  holder : String
  next : Nat

namespace HolderSearch

/-- A search starts with the candidate without a number; the first number is two. -/
def start (base : String) : HolderSearch :=
  ⟨base, 2⟩

inductive Round (base : String) (taken : List String) : HolderSearch → HolderSearch → Prop
  | renumber {state : HolderSearch} (htaken : state.holder ∈ taken) :
    Round base taken state ⟨base ++ "_" ++ toString state.next, state.next + 1⟩

/-- The states that a search is in after a number of rounds. -/
inductive Rounds (base : String) (taken : List String) : Nat → HolderSearch → Prop
  | start : Rounds base taken 0 (start base)
  | round {rounds : Nat} {state next : HolderSearch} (hrounds : Rounds base taken rounds state)
      (hround : Round base taken state next) : Rounds base taken (rounds + 1) next

end HolderSearch

section Search

variable {base : String} {taken : List String}

theorem toString_injective : Function.Injective fun n : Nat ↦ toString n := by
  intro n m h
  have hdigits : Nat.toDigits 10 n = Nat.toDigits 10 m := by
    simpa [Nat.toString_eq_repr, Nat.repr_eq_ofList_toDigits] using congrArg String.toList h
  calc n
    _ = Nat.ofDigitChars 10 (Nat.toDigits 10 n) 0 := Nat.ofDigitChars_ten_toDigits.symm
    _ = m := by rw [hdigits, Nat.ofDigitChars_ten_toDigits]

/-- No candidate is tried twice. -/
theorem holderCandidate_injective (base : String) : Function.Injective (holderCandidate base) := by
  have hnumbered (tried : Nat) : base ≠ holderCandidate base (tried + 1) := by
    intro h
    have hlength := congrArg String.length h
    rw [holderCandidate, String.append_assoc, String.length_append, String.length_append] at hlength
    have hmark : "_".length = 1 := rfl
    omega
  intro tried other h
  cases tried with
  | zero =>
    cases other with
    | zero => rfl
    | succ other => exact absurd h (hnumbered other)
  | succ tried =>
    cases other with
    | zero => exact absurd h.symm (hnumbered tried)
    | succ other =>
      have hnumber := toString_injective ((String.append_right_inj _).mp h)
      omega

/-- What a round does to a search that has tried the first candidates in turn. -/
theorem HolderSearch.round_iff {tried : Nat} {next : HolderSearch} :
    Round base taken ⟨holderCandidate base tried, tried + 2⟩ next ↔
      holderCandidate base tried ∈ taken ∧
        next = ⟨holderCandidate base (tried + 1), tried + 3⟩ := by
  constructor
  · rintro ⟨htaken⟩
    exact ⟨htaken, rfl⟩
  · rintro ⟨htaken, rfl⟩
    exact .renumber htaken

/-- A search has tried the first candidates in turn, and all but the last one are taken. -/
theorem HolderSearch.rounds_iff {rounds : Nat} {state : HolderSearch} :
    Rounds base taken rounds state ↔
      (∀ tried < rounds, holderCandidate base tried ∈ taken) ∧
        state = ⟨holderCandidate base rounds, rounds + 2⟩ := by
  constructor
  · intro h
    induction h with
    | start => exact ⟨fun tried htried ↦ absurd htried (Nat.not_lt_zero tried), rfl⟩
    | @round rounds state next _ hround ih =>
      obtain ⟨hall, rfl⟩ := ih
      obtain ⟨htaken, rfl⟩ := round_iff.mp hround
      refine ⟨fun tried htried ↦ ?_, rfl⟩
      rcases Nat.lt_succ_iff_lt_or_eq.mp htried with hbefore | rfl
      · exact hall tried hbefore
      · exact htaken
  · rintro ⟨hall, rfl⟩
    induction rounds with
    | zero => exact .start
    | succ rounds ih =>
      apply Rounds.round (ih fun tried htried ↦ hall tried (by omega))
      exact round_iff.mpr ⟨hall rounds (by omega), rfl⟩

/-- There are no more candidates among the taken names than taken names. -/
theorem le_card_of_forall_mem {rounds : Nat}
    (h : ∀ tried < rounds, holderCandidate base tried ∈ taken) : rounds ≤ taken.toFinset.card := by
  have hsubset : (Finset.range rounds).image (holderCandidate base) ⊆ taken.toFinset := by
    intro name hname
    obtain ⟨tried, htried, rfl⟩ := Finset.mem_image.mp hname
    exact List.mem_toFinset.mpr (h tried (Finset.mem_range.mp htried))
  calc rounds
    _ = ((Finset.range rounds).image (holderCandidate base)).card := by
      rw [Finset.card_image_of_injective _ (holderCandidate_injective base), Finset.card_range]
    _ ≤ taken.toFinset.card := Finset.card_le_card hsubset

/-- Some candidate is free, and all that are tried before it are taken. -/
theorem exists_free_holderCandidate (base : String) (taken : List String) :
    ∃ tried, holderCandidate base tried ∉ taken ∧
      ∀ before < tried, holderCandidate base before ∈ taken := by
  have hfree : ∃ tried, holderCandidate base tried ∉ taken := by
    by_contra hnone
    have hall : ∀ tried, holderCandidate base tried ∈ taken := by simpa using hnone
    have hmany := le_card_of_forall_mem fun tried (_ : tried < taken.toFinset.card + 1) ↦ hall tried
    omega
  classical
  exact ⟨Nat.find hfree, Nat.find_spec hfree,
    fun before hbefore ↦ not_not.mp (Nat.find_min hfree hbefore)⟩

/-- A numbered candidate is found if the rounds suffice and those before it are taken. -/
theorem numberedHolder_eq {rounds first tried : Nat} (hfirst : first ≤ tried)
    (hrounds : tried ≤ first + rounds)
    (htaken : ∀ before, first ≤ before → before < tried →
      holderCandidate base (before + 1) ∈ taken)
    (hfree : holderCandidate base (tried + 1) ∉ taken) :
    numberedHolder base taken rounds (first + 2) = holderCandidate base (tried + 1) := by
  induction rounds generalizing first with
  | zero =>
    obtain rfl : first = tried := by omega
    rfl
  | succ rounds ih =>
    have hname : base ++ "_" ++ toString (first + 2) = holderCandidate base (first + 1) := rfl
    rw [numberedHolder, hname]
    split
    · next hcontains =>
      have hne : first ≠ tried := by
        rintro rfl
        exact hfree (List.contains_iff_mem.mp hcontains)
      apply ih (by omega) (by omega)
      exact fun before hbefore ↦ htaken before (by omega)
    · next hcontains =>
      have heq : first = tried := by
        by_contra hne
        exact hcontains (List.contains_iff_mem.mpr (htaken first (by omega) (by omega)))
      rw [heq]

/-- The name for a holder is the first candidate that is free. -/
theorem holderName_eq {field : Field} {tried : Nat}
    (htaken : ∀ before < tried, holderCandidate (snakeCase field.name ++ "_str") before ∈ taken)
    (hfree : holderCandidate (snakeCase field.name ++ "_str") tried ∉ taken) :
    holderName field taken = holderCandidate (snakeCase field.name ++ "_str") tried := by
  have hmany := (le_card_of_forall_mem htaken).trans (List.toFinset_card_le taken)
  cases tried with
  | zero => exact if_neg fun hcontains ↦ hfree (List.contains_iff_mem.mp hcontains)
  | succ tried =>
    have hbase := List.contains_iff_mem.mpr (htaken 0 (Nat.zero_lt_succ tried))
    apply (if_pos hbase).trans
    exact numberedHolder_eq (Nat.zero_le tried) (by omega)
      (fun before _ hbefore ↦ htaken (before + 1) (by omega)) hfree

theorem holderName_notMem (field : Field) (taken : List String) :
    holderName field taken ∉ taken := by
  obtain ⟨tried, hfree, htaken⟩ :=
    exists_free_holderCandidate (snakeCase field.name ++ "_str") taken
  rwa [holderName_eq htaken hfree]

end Search

/-- What the search for the holder of a field comes to when some names are taken. -/
structure HolderSearch.EndsWithin (field : Field) (taken : List String) : Prop where
  /-- After at most as many rounds as there are taken names its candidate is free and is chosen. -/
  ends : ∃ rounds ≤ taken.toFinset.card, ∃ state,
    Rounds (snakeCase field.name ++ "_str") taken rounds state ∧ state.holder ∉ taken ∧
      holderName field taken = state.holder
  /-- It does not go on after that many rounds, so its numbers stay as low. -/
  bounded : ∀ rounds state, Rounds (snakeCase field.name ++ "_str") taken rounds state →
    rounds ≤ taken.toFinset.card ∧ state.next ≤ taken.toFinset.card + 2

theorem HolderSearch.endsWithin (field : Field) (taken : List String) :
    EndsWithin field taken where
  ends := by
    obtain ⟨tried, hfree, htaken⟩ :=
      exists_free_holderCandidate (snakeCase field.name ++ "_str") taken
    exact ⟨tried, le_card_of_forall_mem htaken, _, rounds_iff.mpr ⟨htaken, rfl⟩, hfree,
      holderName_eq htaken hfree⟩
  bounded rounds state hrounds := by
    obtain ⟨htaken, rfl⟩ := rounds_iff.mp hrounds
    have hmany := le_card_of_forall_mem htaken
    exact ⟨hmany, Nat.add_le_add_right hmany 2⟩

def ScanTarget.held? : ScanTarget → Option (Field × String)
  | .enumHolder field holder _ => some (field, holder)
  | _ => none

@[simp] theorem ScanTarget.held?_slot (field : Field) : (slot field).held? = none := rfl

@[simp] theorem ScanTarget.held?_enumHolder (field : Field) (holder codec : String) :
    (enumHolder field holder codec).held? = some (field, holder) := rfl

@[simp] theorem ScanTarget.held?_audit (column : String) (kind : Sql.ColumnKind)
    (declared : Option Bool) : (audit column kind declared).held? = none := rfl

def heldTexts (targets : List ScanTarget) : List (Field × String) :=
  targets.filterMap ScanTarget.held?

/-- The fields of a classified entity whose texts are held, with their holders. -/
def Classification.held (classification : Classification) : List (Field × String) :=
  heldTexts classification.scanTargets

section Fields

variable {entity : Entity}

/-- A field with a codec is held under a name that is taken from then on. -/
theorem heldTexts_fieldTargets_cons (taken : List String) (field : Field) (rest : List Field) :
    heldTexts (fieldTargets entity taken (field :: rest)) =
      if (entity.codecOf? field).isSome then
        (field, holderName field taken) ::
          heldTexts (fieldTargets entity (holderName field taken :: taken) rest)
      else heldTexts (fieldTargets entity taken rest) := by
  rw [fieldTargets]
  cases entity.codecOf? field with
  | some codec => exact List.filterMap_cons_some (ScanTarget.held?_enumHolder ..)
  | none => exact List.filterMap_cons_none (ScanTarget.held?_slot field)

theorem map_fst_heldTexts (taken : List String) (fields : List Field) :
    (heldTexts (fieldTargets entity taken fields)).map Prod.fst =
      fields.filter fun field ↦ (entity.codecOf? field).isSome := by
  induction fields generalizing taken with
  | nil => rfl
  | cons field rest ih =>
    rw [heldTexts_fieldTargets_cons, List.filter_cons]
    split
    · rw [List.map_cons, ih]
    · exact ih taken

theorem exists_eq_holderName {taken : List String} {fields : List Field} {field : Field}
    {holder : String} (h : (field, holder) ∈ heldTexts (fieldTargets entity taken fields)) :
    ∃ others, holder = holderName field others := by
  induction fields generalizing taken with
  | nil => cases h
  | cons first rest ih =>
    rw [heldTexts_fieldTargets_cons] at h
    split at h
    · rcases List.mem_cons.mp h with heq | h
      · cases heq
        exact ⟨taken, rfl⟩
      · exact ih h
    · exact ih h

/-- The holders of fields are distinct from each other and from all that was taken before. -/
theorem heldTexts_fresh (taken : List String) (fields : List Field) :
    ((heldTexts (fieldTargets entity taken fields)).map Prod.snd).Nodup ∧
      ∀ holder ∈ (heldTexts (fieldTargets entity taken fields)).map Prod.snd, holder ∉ taken := by
  induction fields generalizing taken with
  | nil => exact ⟨List.nodup_nil, List.forall_mem_nil _⟩
  | cons field rest ih =>
    rw [heldTexts_fieldTargets_cons]
    split
    · obtain ⟨hnodup, hfresh⟩ := ih (holderName field taken :: taken)
      rw [List.map_cons, List.nodup_cons, List.forall_mem_cons]
      refine ⟨⟨fun hmem ↦ ?_, hnodup⟩, holderName_notMem field taken, fun holder hholder ↦ ?_⟩
      · exact hfresh _ hmem List.mem_cons_self
      · exact fun hmem ↦ hfresh holder hholder (List.mem_cons_of_mem _ hmem)
    · exact ih taken

/-- Columns other than those of fields are not held. -/
theorem held_classify (entity : Entity) :
    entity.classify.held =
      heldTexts (fieldTargets entity (entity.fields.map fun field ↦ snakeCase field.name)
        (entity.fields.filter (!·.isTimestamp))) := by
  have haudits : (auditTail.map fun column ↦
      ScanTarget.audit column (auditKind column) (entity.audit.get column)).filterMap
        ScanTarget.held? = [] := rfl
  rw [Classification.held, Entity.classify, heldTexts]
  dsimp only
  rw [List.cons_append, List.filterMap_cons_none (ScanTarget.held?_audit ..),
    List.filterMap_append, haudits, List.append_nil, heldTexts]

/-- The fields with a codec are those that have a holder. -/
theorem map_fst_held_classify (entity : Entity) :
    entity.classify.held.map Prod.fst =
      entity.fields.filter fun field ↦ (entity.codecOf? field).isSome := by
  rw [held_classify, map_fst_heldTexts, List.filter_filter]
  refine List.filter_congr fun field _ ↦ ?_
  -- A point in time is no enum, so it has no codec.
  obtain ⟨name, column, type, optional⟩ := field
  cases type <;> simp [Entity.codecOf?, Field.enumName?, Field.isTimestamp]

/-- Every holder has the letters that stand behind the name of the field. -/
theorem mem_holderName {c : Char} (hc : c ∈ "_str".toList) (field : Field)
    (taken : List String) : c ∈ (holderName field taken).toList := by
  have hbase : c ∈ (snakeCase field.name ++ "_str").toList := by
    rw [String.toList_append]
    exact List.mem_append_right _ hc
  rcases holderName_cases field taken with hname | ⟨number, hname⟩
  · rwa [hname]
  · rw [hname, String.toList_append, String.toList_append, List.append_assoc]
    exact List.mem_append_left _ hbase

theorem isAuditColumn_holderName (field : Field) (taken : List String) :
    isAuditColumn (holderName field taken) = false := by
  have hletter : ∀ column ∈ idColumn :: auditTail, 's' ∉ column.toList := by decide
  have hholder := mem_holderName (c := 's') (by decide) field taken
  rw [isAuditColumn_eq_false_iff, ← not_or, ← List.mem_cons]
  exact fun hmem ↦ hletter _ hmem hholder

end Fields

structure Entity.HoldersAreFresh (entity : Entity) : Prop where
  /-- The fields with a codec have one each, in the order of declaration. -/
  fields : entity.classify.held.map Prod.fst =
    entity.fields.filter fun field ↦ (entity.codecOf? field).isSome
  distinct : (entity.classify.held.map Prod.snd).Nodup
  /-- No holder is the local of a field, wherever the field is declared. -/
  ne_field : ∀ holder ∈ entity.classify.held.map Prod.snd, ∀ field ∈ entity.fields,
    holder ≠ snakeCase field.name
  ne_audit : ∀ holder ∈ entity.classify.held.map Prod.snd, isAuditColumn holder = false

theorem Entity.holdersAreFresh (entity : Entity) : entity.HoldersAreFresh where
  fields := map_fst_held_classify entity
  distinct := by
    rw [held_classify]
    exact (heldTexts_fresh _ _).1
  ne_field := by
    rw [held_classify]
    intro holder hholder field hfield heq
    apply (heldTexts_fresh _ _).2 holder hholder
    exact heq ▸ List.mem_map_of_mem hfield
  ne_audit := by
    rw [held_classify]
    intro holder hholder
    obtain ⟨⟨field, _⟩, hmem, rfl⟩ := List.mem_map.mp hholder
    obtain ⟨taken, rfl⟩ := exists_eq_holderName hmem
    exact isAuditColumn_holderName field taken

/--
The holders of the enum fields of an entity are distinct, and none is the name of a field, declared
before or behind it, in snake case, or that of an audit column. Whatever names are taken, the search
for a holder comes to an end: it gives up at most as many candidates as there are taken names, so it
tries at most one more, which is free.
-/
theorem holders_areFresh_and_search_ends :
    (∀ entity : Entity, entity.HoldersAreFresh) ∧
      ∀ (field : Field) (taken : List String), HolderSearch.EndsWithin field taken :=
  ⟨Entity.holdersAreFresh, HolderSearch.endsWithin⟩

/-- Fields that are named like numbered holders are passed over. -/
example : holderName ⟨"status", "status", .timestamp, false⟩
    ["status", "status_str", "status_str_2"] = "status_str_3" := by decide +kernel

end ProtoCrud.Schema
