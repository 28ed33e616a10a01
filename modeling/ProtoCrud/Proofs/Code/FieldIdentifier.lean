import Mathlib.Data.List.Basic
import ProtoCrud.Code.Identifier
import ProtoCrud.Proofs.Text.PlainName

/-!
# Identifiers of fields

The identifier of a field is its name in snake case with a mark or an underscore where the spelling
is a keyword. The snake case of a field name has no mark in it and no underscore at its end, so the
identifier tells the snake case, and fields with distinct spellings have distinct identifiers.
-/

namespace ProtoCrud.Text

/-- Whether a text is an identifier of a schema language, which may start with an underscore. -/
def isFieldName : List Char → Bool
  | [] => false
  | c :: rest => (c.isAlpha || c == '_') && rest.all isPlainChar

theorem isPlainChar_of_isFieldName {name : List Char} (h : isFieldName name = true) :
    ∀ c ∈ name, isPlainChar c = true := by
  cases name with
  | nil => cases h
  | cons first rest =>
    rw [isFieldName, Bool.and_eq_true, List.all_eq_true] at h
    refine List.forall_mem_cons.mpr ⟨?_, h.2⟩
    rcases Bool.or_eq_true_iff.mp h.1 with hletter | hunderscore
    · exact isPlainChar_of_isAlpha hletter
    · rw [isPlainChar, hunderscore, Bool.or_true]

theorem ne_nil_of_mem_pieceWords {mode : CaseMode} {current text word : List Char}
    (hmode : current = [] → mode = .unknown) (hword : word ∈ pieceWords mode current text) :
    word ≠ [] := by
  fun_induction pieceWords mode current text with
  | case1 => cases hword
  | case2 mode current hcurrent =>
    rw [List.mem_singleton.mp hword]
    simpa using hcurrent
  | case3 mode current c =>
    rw [List.mem_singleton.mp hword]
    simp
  | case4 mode current c next rest _ ih =>
    rcases List.mem_cons.mp hword with rfl | hword
    · simp
    · exact ih (fun _ ↦ rfl) hword
  | case5 mode current c next rest _ hupper ih =>
    rcases List.mem_cons.mp hword with rfl | hword
    · intro hempty
      have hunknown := hmode (List.reverse_eq_nil_iff.mp hempty)
      rw [hupper.1] at hunknown
      cases hunknown
    · exact ih (fun _ ↦ rfl) hword
  | case6 mode current c next rest _ _ ih => exact ih (fun h ↦ absurd h (by simp)) hword

/-- A word of a name is not empty. -/
theorem ne_nil_of_mem_words {name word : List Char} (h : word ∈ words name) : word ≠ [] := by
  rw [words, List.mem_flatMap] at h
  obtain ⟨piece, -, hword⟩ := h
  exact ne_nil_of_mem_pieceWords (fun _ ↦ rfl) hword

/-- Joined parts end as one of the parts if none of them is empty. -/
theorem mem_of_mem_getLast?_intercalate {α : Type} {separator : List α} {parts : List (List α)}
    (hparts : ∀ part ∈ parts, part ≠ []) {a : α}
    (h : a ∈ (separator.intercalate parts).getLast?) : ∃ part ∈ parts, a ∈ part := by
  induction parts with
  | nil => simp at h
  | cons first rest ih =>
    cases rest with
    | nil =>
      rw [List.intercalate_singleton] at h
      exact ⟨first, List.mem_cons_self, List.mem_of_getLast? h⟩
    | cons next rest =>
      have hnext : separator.intercalate (next :: rest) ≠ [] := by
        have hne := hparts next (List.mem_cons_of_mem first List.mem_cons_self)
        cases rest with
        | nil => simpa using hne
        | cons => simp [List.intercalate_cons_cons, hne]
      rw [List.intercalate_cons_cons, List.getLast?_append_of_ne_nil _ hnext] at h
      obtain ⟨part, hpart, ha⟩ := ih (fun part hpart ↦ hparts part (List.mem_cons_of_mem _ hpart)) h
      exact ⟨part, List.mem_cons_of_mem first hpart, ha⟩

/-- A name in snake case ends with the end of a word. -/
theorem getLast?_snakeCase_ne {name : String} {c : Char}
    (hc : c ∈ (snakeCase name).toList.getLast?) : c ≠ '_' := by
  rw [snakeCase, String.toList_intercalate, List.map_map] at hc
  have hparts : ∀ part ∈ (words name.toList).map
      (String.toList ∘ fun word ↦ String.ofList (lowerWord word)), part ≠ [] := by
    intro part hpart
    obtain ⟨word, hword, rfl⟩ := List.mem_map.mp hpart
    rw [Function.comp_apply, String.toList_ofList]
    exact lowerWord_ne_nil (ne_nil_of_mem_words hword)
  obtain ⟨part, hpart, hmem⟩ := mem_of_mem_getLast?_intercalate hparts hc
  obtain ⟨word, hword, rfl⟩ := List.mem_map.mp hpart
  rw [Function.comp_apply, String.toList_ofList] at hmem
  rintro rfl
  exact notMem_lowerWord hword (by decide) hmem

end ProtoCrud.Text

namespace ProtoCrud.Code

open Text

/-- A spelling as an identifier, with a mark or an underscore if it is a keyword. -/
def escaped (spelling : String) : String :=
  if spelling = "self" ∨ spelling = "super" ∨ spelling = "crate" then spelling ++ "_"
  else if keywords.contains spelling then rawMark ++ spelling
  else spelling

theorem fieldIdentifier_eq (name : String) : fieldIdentifier name = escaped (snakeCase name) :=
  rfl

/-- Whether a spelling shows no trace of having been escaped. -/
structure IsUnescaped (spelling : String) : Prop where
  hash_notMem : '#' ∉ spelling.toList
  getLast?_ne : ∀ c ∈ spelling.toList.getLast?, c ≠ '_'

theorem isUnescaped_snakeCase (name : String) : IsUnescaped (snakeCase name) where
  hash_notMem := notMem_snakeCase name (by decide) (by decide)
  getLast?_ne _ hc := getLast?_snakeCase_ne hc

/-- How a spelling was escaped: by an underscore, by a mark, or not at all. -/
theorem escaped_cases (spelling : String) :
    escaped spelling = spelling ++ "_" ∨ escaped spelling = rawMark ++ spelling ∨
      escaped spelling = spelling := by
  unfold escaped
  split
  · exact .inl rfl
  split
  · exact .inr (.inl rfl)
  · exact .inr (.inr rfl)

theorem not_isUnescaped_append (spelling : String) : ¬ IsUnescaped (spelling ++ "_") := by
  intro h
  refine h.getLast?_ne '_' ?_ rfl
  rw [String.toList_append]
  exact List.getLast?_concat

theorem not_isUnescaped_rawMark (spelling : String) : ¬ IsUnescaped (rawMark ++ spelling) := by
  intro h
  refine h.hash_notMem ?_
  rw [String.toList_append]
  exact List.mem_append_left _ (by decide)

/-- An underscore at the end and a mark in front are told apart. -/
theorem append_ne_rawMark {spelling other : String} (h : IsUnescaped spelling) :
    spelling ++ "_" ≠ rawMark ++ other := by
  intro heq
  have hmem : '#' ∈ (spelling ++ "_").toList := by
    rw [heq, String.toList_append]
    exact List.mem_append_left _ (by decide)
  rw [String.toList_append] at hmem
  rcases List.mem_append.mp hmem with hmem | hmem
  · exact h.hash_notMem hmem
  · exact absurd hmem (by decide)

/-- The escaped form tells the spelling. -/
theorem escaped_injective {spelling other : String} (h : IsUnescaped spelling)
    (hother : IsUnescaped other) (heq : escaped spelling = escaped other) : spelling = other := by
  rcases escaped_cases spelling with hform | hform | hform <;>
    rcases escaped_cases other with hform' | hform' | hform' <;> rw [hform, hform'] at heq
  · exact (String.append_left_inj "_").mp heq
  · exact absurd heq (append_ne_rawMark h)
  · exact absurd (heq ▸ hother) (not_isUnescaped_append spelling)
  · exact absurd heq.symm (append_ne_rawMark hother)
  · exact (String.append_right_inj rawMark).mp heq
  · exact absurd (heq ▸ hother) (not_isUnescaped_rawMark spelling)
  · exact absurd (heq ▸ h) (not_isUnescaped_append other)
  · exact absurd (heq ▸ h) (not_isUnescaped_rawMark other)
  · exact heq

/-- The identifier of a field tells the snake case of its name. -/
theorem snakeCase_eq_of_fieldIdentifier {name other : String}
    (h : fieldIdentifier name = fieldIdentifier other) : snakeCase name = snakeCase other :=
  escaped_injective (isUnescaped_snakeCase name) (isUnescaped_snakeCase other) h

/-- Items with distinct names in snake case have distinct identifiers. -/
theorem nodup_fieldIdentifiers {α : Type} {items : List α} {name : α → String}
    (h : (items.map fun item ↦ snakeCase (name item)).Nodup) :
    (items.map fun item ↦ fieldIdentifier (name item)).Nodup := by
  unfold List.Nodup at h ⊢
  rw [List.pairwise_map] at h ⊢
  exact h.imp fun hne heq ↦ hne (snakeCase_eq_of_fieldIdentifier heq)

/-- A field has a word as its identifier if the word is its name in snake case. -/
theorem fieldIdentifier_eq_iff {name word : String} (hword : IsUnescaped word)
    (hescaped : escaped word = word) : fieldIdentifier name = word ↔ snakeCase name = word := by
  constructor
  · intro h
    exact escaped_injective (isUnescaped_snakeCase name) hword (h.trans hescaped.symm)
  · intro h
    rw [fieldIdentifier_eq, h, hescaped]

end ProtoCrud.Code
