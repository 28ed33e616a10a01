import ProtoCrud.Proofs.Query.ClauseShape
import ProtoCrud.Sql.Statement

/-!
# Counting placeholders

Arguments are bound to the placeholders of a text by their order alone, so a statement can only be
run with as many arguments as its text has placeholders. The text of a predicate has one placeholder
for each of its operands, provided that the names of its columns have none.
-/

namespace ProtoCrud.Sql

open Query (allColumns columns)

def placeholderCount (text : String) : Nat :=
  text.toList.count '?'

/-- A text without placeholders. -/
def HasNoPlaceholder (text : String) : Prop :=
  '?' ∉ text.toList

theorem HasNoPlaceholder.placeholderCount_eq {text : String} (h : HasNoPlaceholder text) :
    placeholderCount text = 0 :=
  List.count_eq_zero.mpr h

@[simp]
theorem placeholderCount_append (front back : String) :
    placeholderCount (front ++ back) = placeholderCount front + placeholderCount back := by
  unfold placeholderCount
  rw [String.toList_append, List.count_append]

/-- Texts that are joined keep their placeholders, and what joins them has none. -/
theorem placeholderCount_intercalate {separator : String}
    (h : placeholderCount separator = 0) (texts : List String) :
    placeholderCount (separator.intercalate texts) = (texts.flatMap String.toList).count '?' := by
  induction texts with
  | nil => rfl
  | cons first rest ih =>
    cases rest with
    | nil => simp [placeholderCount]
    | cons second others =>
      calc placeholderCount (separator.intercalate (first :: second :: others))
        _ = placeholderCount first + 0 + ((second :: others).flatMap String.toList).count '?' := by
          rw [String.intercalate_cons_cons, placeholderCount_append, placeholderCount_append, ih, h]
        _ = ((first :: second :: others).flatMap String.toList).count '?' := by
          rw [Nat.add_zero, placeholderCount, ← List.count_append]
          rfl

theorem placeholderCount_placeholders (count : Nat) :
    placeholderCount (placeholders count) = count := by
  calc placeholderCount (placeholders count)
    _ = ((List.replicate count "?").flatMap String.toList).count '?' :=
      placeholderCount_intercalate rfl _
    _ = (List.replicate count '?').count '?' := by
      rw [List.flatMap_replicate, show "?".toList = ['?'] from rfl,
        List.flatten_replicate_singleton]
    _ = count := List.count_replicate_self

/-- A list of placeholders between brackets. -/
theorem placeholderCount_bracketed {opening : String} (h : placeholderCount opening = 0)
    (count : Nat) : placeholderCount (opening ++ placeholders count ++ ")") = count := by
  have hclosing : placeholderCount ")" = 0 := rfl
  rw [placeholderCount_append, placeholderCount_append, placeholderCount_placeholders, h, hclosing,
    Nat.zero_add, Nat.add_zero]

theorem placeholderCount_sign (comparison : Comparison) :
    placeholderCount comparison.sign = 0 := by
  cases comparison <;> rfl

theorem placeholderCount_test (test : Test) :
    placeholderCount test.text = test.operands.length := by
  cases test with
  | compare comparison operand =>
    change placeholderCount (comparison.sign ++ " ?") = 1
    rw [placeholderCount_append, placeholderCount_sign]
    rfl
  | like pattern => exact (rfl : placeholderCount "LIKE ?" = 1)
  | oneOf operands => exact placeholderCount_bracketed rfl operands.length
  | noneOf operands => exact placeholderCount_bracketed rfl operands.length
  | isNull => rfl
  | isNotNull => rfl
  | between low high => exact (rfl : placeholderCount "BETWEEN ? AND ?" = 2)

mutual
/-- A predicate has as many placeholders as operands if its columns have none. -/
theorem placeholderCount_text : (part : Predicate) →
    (∀ column ∈ columns part, HasNoPlaceholder column) →
      placeholderCount part.text = part.operands.length
  | .never, _ => rfl
  | .test column condition, h => by
    have hcolumn := (h column List.mem_cons_self).placeholderCount_eq
    rw [Predicate.text, placeholderCount_append, placeholderCount_append, hcolumn,
      placeholderCount_test]
    exact Nat.zero_add _
  | .junction logic parts, h => by
    have hopening : placeholderCount "(" = 0 := rfl
    have hclosing : placeholderCount ")" = 0 := rfl
    have hseparator : placeholderCount (" " ++ logic.keyword ++ " ") = 0 := by
      cases logic <;> rfl
    rw [Predicate.text, placeholderCount_append, placeholderCount_append,
      placeholderCount_intercalate hseparator, count_texts parts h, hopening,
      hclosing, Nat.zero_add, Nat.add_zero]
    rfl

theorem count_texts : (parts : List Predicate) →
    (∀ column ∈ allColumns parts, HasNoPlaceholder column) →
      ((Predicate.texts parts).flatMap String.toList).count '?' =
        (Predicate.allOperands parts).length
  | [], _ => rfl
  | part :: parts, h => by
    obtain ⟨hpart, hparts⟩ := List.forall_mem_append.mp h
    have hcount : part.text.toList.count '?' = part.operands.length :=
      placeholderCount_text part hpart
    rw [Predicate.texts, List.flatMap_cons, List.count_append, hcount, count_texts parts hparts,
      Predicate.allOperands, List.length_append]
end

theorem placeholderCount_conjunctionText {parts : List Predicate}
    (h : ∀ column ∈ allColumns parts, HasNoPlaceholder column) :
    placeholderCount (Predicate.conjunctionText parts) = (Predicate.allOperands parts).length := by
  rw [Predicate.conjunctionText, placeholderCount_intercalate rfl, count_texts parts h]

theorem placeholderCount_filteredText {table : String} (htable : HasNoPlaceholder table)
    {filter : List Predicate} (h : ∀ column ∈ allColumns filter, HasNoPlaceholder column) :
    placeholderCount (filteredText table filter) = (Predicate.allOperands filter).length := by
  cases filter with
  | nil => exact htable.placeholderCount_eq
  | cons part parts =>
    have hkeyword : placeholderCount " WHERE " = 0 := rfl
    change placeholderCount (table ++ " WHERE " ++ Predicate.conjunctionText (part :: parts)) = _
    rw [placeholderCount_append, placeholderCount_append, htable.placeholderCount_eq, hkeyword,
      placeholderCount_conjunctionText h, Nat.zero_add]

theorem placeholderCount_commaList {names : List String}
    (h : ∀ name ∈ names, HasNoPlaceholder name) : placeholderCount (commaList names) = 0 := by
  rw [commaList, placeholderCount_intercalate rfl, List.count_eq_zero]
  intro hmark
  obtain ⟨name, hname, hchar⟩ := List.mem_flatMap.mp hmark
  exact h name hname hchar

end ProtoCrud.Sql
