import ProtoCrud.Query.Filter
import ProtoCrud.Query.Search

/-!
# What the text of a clause depends on

Two filters have one shape if they differ only in the texts of operands and in conditions on fields
that may not be filtered on. Filters of one shape compile to one clause. A clause names no column
that may not be filtered on.
-/

namespace ProtoCrud.Query

open Sql

mutual
/-- Criteria that differ only in operands and in conditions on fields that are not allowed. -/
inductive SameShape (allowed : List String) : Criterion → Criterion → Prop
  | operands {field : String} {operator : Operator} {first second : List String} :
    first.length = second.length →
      SameShape allowed (.condition field operator first) (.condition field operator second)
  | outside {field other : String} {operator operator' : Operator} {first second : List String} :
    field ∉ allowed → other ∉ allowed →
      SameShape allowed (.condition field operator first) (.condition other operator' second)
  | group {logic : Logic} {first second : List Criterion} :
    AllSameShape allowed first second →
      SameShape allowed (.group logic first) (.group logic second)

/-- Lists of criteria that have the same shapes, one by one. -/
inductive AllSameShape (allowed : List String) : List Criterion → List Criterion → Prop
  | nil : AllSameShape allowed [] []
  | cons {first second : Criterion} {others others' : List Criterion} :
    SameShape allowed first second → AllSameShape allowed others others' →
      AllSameShape allowed (first :: others) (second :: others')
end

/-- Whether a list may be sorted on a column. -/
def IsSortable (allowed : List String) (column : String) : Prop :=
  column ∈ allowed ∨ column ∈ standardColumns

/--
List queries that differ only in operands, in conditions on fields that are not allowed, in the
page, and in columns to sort on that are not allowed.
-/
structure ListQuery.SameShape (allowed : List String) (first second : ListQuery) : Prop where
  filters : AllSameShape allowed first.filters second.filters
  descending : first.pagination.descending = second.pagination.descending
  sortBy : first.pagination.sortBy = second.pagination.sortBy ∨
    ¬ IsSortable allowed first.pagination.sortBy ∧ ¬ IsSortable allowed second.pagination.sortBy

theorem map_text_conditionPredicate? (field : String) (operator : Operator)
    {first second : List String} (h : first.length = second.length) :
    (conditionPredicate? field operator first).map Predicate.text =
      (conditionPredicate? field operator second).map Predicate.text := by
  match first, second with
  | [], [] => rfl
  | [], _ :: _ => cases h
  | _ :: _, [] => cases h
  | [_], [_] => cases operator <;> rfl
  | [_], _ :: _ :: _ => cases h
  | _ :: _ :: _, [_] => cases h
  | a :: b :: others, c :: d :: others' =>
    have hplaceholders : placeholders (a :: b :: others).length =
        placeholders (c :: d :: others').length := congrArg placeholders h
    cases operator with
    | oneOf =>
      exact congrArg (fun marks ↦ some (field ++ " " ++ ("IN (" ++ marks ++ ")"))) hplaceholders
    | noneOf =>
      exact congrArg (fun marks ↦ some (field ++ " " ++ ("NOT IN (" ++ marks ++ ")")))
        hplaceholders
    | _ => rfl

theorem map_text_groupPredicate? (logic : Logic) {first second : List Predicate}
    (h : Predicate.texts first = Predicate.texts second) :
    (groupPredicate? logic first).map Predicate.text =
      (groupPredicate? logic second).map Predicate.text := by
  match first, second with
  | [], [] => rfl
  | [], _ :: _ => cases h
  | _ :: _, [] => cases h
  | [a], [b] => exact congrArg some (List.cons.inj h).1
  | [_], _ :: _ :: _ => cases (List.cons.inj h).2
  | _ :: _ :: _, [_] => cases (List.cons.inj h).2
  | _ :: _ :: _, _ :: _ :: _ =>
    exact congrArg
      (fun texts ↦ some ("(" ++ (" " ++ logic.keyword ++ " ").intercalate texts ++ ")")) h

mutual
/-- Criteria of one shape leave the same text, or both leave nothing. -/
theorem SameShape.map_text_predicate? {allowed : List String} {first second : Criterion} :
    SameShape allowed first second →
      (first.predicate? (some allowed)).map Predicate.text =
        (second.predicate? (some allowed)).map Predicate.text
  | .operands h => by
    rw [Criterion.predicate?, Criterion.predicate?]
    split
    · exact map_text_conditionPredicate? _ _ h
    · rfl
  | .outside hfield hother => by
    rw [Criterion.predicate?, Criterion.predicate?, if_neg (by simpa [isAllowed] using hfield),
      if_neg (by simpa [isAllowed] using hother)]
  | .group h => by
    rw [Criterion.predicate?, Criterion.predicate?]
    exact map_text_groupPredicate? _ h.texts_predicates

theorem AllSameShape.texts_predicates {allowed : List String} {first second : List Criterion} :
    AllSameShape allowed first second →
      Predicate.texts (predicates (some allowed) first) =
        Predicate.texts (predicates (some allowed) second)
  | .nil => rfl
  | @AllSameShape.cons _ first second _ _ hhead htail => by
    have htext := hhead.map_text_predicate?
    have htexts := htail.texts_predicates
    rw [predicates, predicates]
    cases hfirst : first.predicate? (some allowed) with
    | none =>
      rw [hfirst] at htext
      rw [Option.map_eq_none_iff.mp htext.symm]
      exact htexts
    | some part =>
      rw [hfirst] at htext
      obtain ⟨part', hsecond, heq⟩ := Option.map_eq_some_iff.mp htext.symm
      rw [hsecond, Predicate.texts, Predicate.texts, heq, htexts]
end

theorem AllSameShape.isEmpty_predicates {allowed : List String} {first second : List Criterion}
    (h : AllSameShape allowed first second) :
    (predicates (some allowed) first).isEmpty = (predicates (some allowed) second).isEmpty := by
  have htexts := h.texts_predicates
  cases hfirst : predicates (some allowed) first <;>
    cases hsecond : predicates (some allowed) second <;> rw [hfirst, hsecond] at htexts <;>
    first | rfl | cases htexts

/-- The column sorted on, whatever was asked for. -/
theorem isSortable_sortColumn (pagination : Pagination) (allowed : List String) :
    IsSortable allowed (pagination.sortColumn allowed) := by
  unfold Pagination.sortColumn
  split
  · next h => simpa [IsSortable] using h
  · exact .inr (by decide)

theorem ListQuery.SameShape.sortColumn_eq {allowed : List String} {first second : ListQuery}
    (h : first.SameShape allowed second) :
    first.pagination.sortColumn allowed = second.pagination.sortColumn allowed := by
  unfold Pagination.sortColumn
  rcases h.sortBy with heq | ⟨hfirst, hsecond⟩
  · rw [heq]
  · rw [if_neg (by simpa [IsSortable] using hfirst), if_neg (by simpa [IsSortable] using hsecond)]

mutual
def columns : Predicate → List String
  | .never => []
  | .test column _ => [column]
  | .junction _ parts => allColumns parts

def allColumns : List Predicate → List String
  | [] => []
  | part :: parts => columns part ++ allColumns parts
end

theorem columns_conditionPredicate? (field : String) (operator : Operator)
    (values : List String) :
    ∀ part ∈ conditionPredicate? field operator values, ∀ column ∈ columns part,
      column = field := by
  intro part hpart column hcolumn
  rw [conditionPredicate?] at hpart
  split at hpart
  · cases hpart
    cases hcolumn
  · obtain ⟨test, -, rfl⟩ := Option.map_eq_some_iff.mp hpart
    exact List.mem_singleton.mp hcolumn

theorem columns_groupPredicate? (logic : Logic) (parts : List Predicate) :
    ∀ part ∈ groupPredicate? logic parts, columns part = allColumns parts := by
  intro part hpart
  match parts with
  | [] => cases hpart
  | [single] =>
    cases hpart
    exact (List.append_nil _).symm
  | first :: second :: others =>
    cases hpart
    rfl

mutual
/-- What is left of a criterion names only columns that may be filtered on. -/
theorem columns_predicate?_subset (allowed : List String) : (criterion : Criterion) →
    ∀ part ∈ criterion.predicate? (some allowed), columns part ⊆ allowed
  | .condition field operator values => by
    intro part hpart column hcolumn
    rw [Criterion.predicate?] at hpart
    split at hpart
    · next h =>
      rw [columns_conditionPredicate? field operator values part hpart column hcolumn]
      simpa [isAllowed] using h
    · cases hpart
  | .group logic members => by
    intro part hpart
    rw [Criterion.predicate?] at hpart
    rw [columns_groupPredicate? logic _ part hpart]
    exact allColumns_predicates_subset allowed members

theorem allColumns_predicates_subset (allowed : List String) : (criteria : List Criterion) →
    allColumns (predicates (some allowed) criteria) ⊆ allowed
  | [] => List.nil_subset _
  | criterion :: rest => by
    rw [predicates]
    cases hpart : criterion.predicate? (some allowed) with
    | none => exact allColumns_predicates_subset allowed rest
    | some part =>
      exact List.append_subset.mpr ⟨columns_predicate?_subset allowed criterion part hpart,
        allColumns_predicates_subset allowed rest⟩
end

end ProtoCrud.Query
