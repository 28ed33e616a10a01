import ProtoCrud.Query.Filter

/-!
# Criteria that constrain nothing

A criterion is vacuous if it is a condition on a field that may not be filtered on, a condition
with too few values, or a group of which every member is vacuous. Exactly the vacuous criteria
compile to nothing, and wherever they stand they leave no trace: neither in the parentheses of the
groups around them nor among the arguments behind them. A group around a single criterion leaves no
trace either. A list of criteria and the group that joins them by "and" therefore differ only in how
they show that nothing is left and that more than one criterion is.
-/

namespace ProtoCrud.Query

open Sql

/-- How many values a condition must have to constrain anything. -/
def Operator.neededValues : Operator → Nat
  | .oneOf | .isNull | .isNotNull => 0
  | .between => 2
  | _ => 1

inductive Criterion.IsVacuous (allowed : Option (List String)) : Criterion → Prop
  | outside {field : String} {operator : Operator} {values : List String}
      (hfield : isAllowed allowed field = false) :
      IsVacuous allowed (.condition field operator values)
  | tooFew {field : String} {operator : Operator} {values : List String}
      (hvalues : values.length < operator.neededValues) :
      IsVacuous allowed (.condition field operator values)
  | group {logic : Logic} {members : List Criterion}
      (hmembers : ∀ member ∈ members, IsVacuous allowed member) :
      IsVacuous allowed (.group logic members)

section Compiled

variable {allowed : Option (List String)}

theorem isVacuous_condition_iff {field : String} {operator : Operator} {values : List String} :
    (Criterion.condition field operator values).IsVacuous allowed ↔
      isAllowed allowed field = false ∨ values.length < operator.neededValues := by
  constructor
  · rintro (hfield | hvalues)
    · exact .inl hfield
    · exact .inr hvalues
  · rintro (hfield | hvalues)
    · exact .outside hfield
    · exact .tooFew hvalues

theorem isVacuous_group_iff {logic : Logic} {members : List Criterion} :
    (Criterion.group logic members).IsVacuous allowed ↔
      ∀ member ∈ members, member.IsVacuous allowed :=
  ⟨fun | .group hmembers => hmembers, .group⟩

theorem conditionPredicate?_eq_none_iff (field : String) (operator : Operator)
    (values : List String) :
    conditionPredicate? field operator values = none ↔
      values.length < operator.neededValues := by
  cases operator <;> rcases values with _ | ⟨first, _ | ⟨second, others⟩⟩ <;>
    simp [conditionPredicate?, test?, Operator.neededValues]

theorem groupPredicate?_eq_none_iff (logic : Logic) (parts : List Predicate) :
    groupPredicate? logic parts = none ↔ parts = [] := by
  match parts with
  | [] => exact ⟨fun _ ↦ rfl, fun _ ↦ rfl⟩
  | [part] => exact ⟨nofun, nofun⟩
  | first :: second :: others => exact ⟨nofun, nofun⟩

/-- What is left of a list of criteria is what is left of each of them. -/
theorem predicates_eq_filterMap (criteria : List Criterion) :
    predicates allowed criteria = criteria.filterMap (·.predicate? allowed) := by
  induction criteria with
  | nil => rfl
  | cons criterion rest ih =>
    rw [predicates, List.filterMap_cons, ih]
    cases criterion.predicate? allowed <;> rfl

theorem predicates_append (first second : List Criterion) :
    predicates allowed (first ++ second) =
      predicates allowed first ++ predicates allowed second := by
  simp only [predicates_eq_filterMap, List.filterMap_append]

mutual
/-- The vacuous criteria are those of which nothing is left. -/
theorem predicate?_eq_none_iff : (criterion : Criterion) →
    (criterion.predicate? allowed = none ↔ criterion.IsVacuous allowed)
  | .condition field operator values => by
    rw [Criterion.predicate?, isVacuous_condition_iff]
    cases isAllowed allowed field with
    | false => exact ⟨fun _ ↦ .inl rfl, fun _ ↦ rfl⟩
    | true => simp [conditionPredicate?_eq_none_iff]
  | .group logic members => by
    rw [Criterion.predicate?, groupPredicate?_eq_none_iff, isVacuous_group_iff]
    exact predicates_eq_nil_iff_forall members

theorem predicates_eq_nil_iff_forall : (criteria : List Criterion) →
    (predicates allowed criteria = [] ↔ ∀ criterion ∈ criteria, criterion.IsVacuous allowed)
  | [] => ⟨fun _ ↦ List.forall_mem_nil _, fun _ ↦ rfl⟩
  | criterion :: rest => by
    rw [predicates_eq_filterMap, List.filterMap_cons, List.forall_mem_cons,
      ← predicate?_eq_none_iff criterion, ← predicates_eq_nil_iff_forall rest,
      predicates_eq_filterMap]
    cases criterion.predicate? allowed <;> simp
end

instance (criterion : Criterion) : Decidable (criterion.IsVacuous allowed) :=
  decidable_of_iff ((criterion.predicate? allowed).isNone = true)
    (Option.isNone_iff_eq_none.trans (predicate?_eq_none_iff criterion))

end Compiled

theorem text_ne_empty (part : Predicate) : part.text ≠ "" := by
  cases part with
  | never => decide
  | test column condition => simp [Predicate.text]
  | junction logic parts => simp [Predicate.text]

theorem conjunctionText_singleton (part : Predicate) :
    Predicate.conjunctionText [part] = part.text :=
  String.intercalate_singleton

/-- A clause is empty only if there is nothing to be joined in it. -/
theorem conjunctionText_eq_empty_iff (parts : List Predicate) :
    Predicate.conjunctionText parts = "" ↔ parts = [] := by
  match parts with
  | [] => exact ⟨fun _ ↦ rfl, fun _ ↦ rfl⟩
  | [part] =>
    rw [conjunctionText_singleton]
    exact ⟨fun h ↦ absurd h (text_ne_empty part), nofun⟩
  | first :: second :: others =>
    simp [Predicate.conjunctionText, Predicate.texts, String.intercalate_cons_cons]

/-- Lists of criteria of which the same is left compile to the same. -/
theorem compile_congr {first second : List Criterion} {allowed allowed' : Option (List String)}
    (h : predicates allowed first = predicates allowed' second) :
    compile first allowed = compile second allowed' := by
  unfold compile
  rw [h]

/-- Nothing is compiled exactly when nothing is left. -/
theorem compile_eq_empty_iff (criteria : List Criterion) (allowed : Option (List String)) :
    compile criteria allowed = ⟨"", []⟩ ↔ predicates allowed criteria = [] := by
  constructor
  · intro h
    apply (conjunctionText_eq_empty_iff _).mp
    exact congrArg CompiledFilter.clause h
  · intro h
    calc compile criteria allowed
      _ = compile [] allowed := compile_congr h
      _ = ⟨"", []⟩ := rfl

/-- A position between the criteria of a list, or between the members of a group at any depth. -/
inductive Position where
  | top (before after : List Criterion)
  | within (before : List Criterion) (logic : Logic) (inner : Position) (after : List Criterion)

def Position.fill (criteria : List Criterion) : Position → List Criterion
  | .top before after => before ++ criteria ++ after
  | .within before logic inner after => before ++ .group logic (inner.fill criteria) :: after

section Positions

variable {allowed : Option (List String)}

/-- What is left around a position depends only on what is left at the position. -/
theorem predicates_fill {first second : List Criterion}
    (h : predicates allowed first = predicates allowed second) (position : Position) :
    predicates allowed (position.fill first) = predicates allowed (position.fill second) := by
  induction position with
  | top before after =>
    simp only [Position.fill, predicates_append, h]
  | within before logic inner after ih =>
    have hgroup : (Criterion.group logic (inner.fill first)).predicate? allowed =
        (Criterion.group logic (inner.fill second)).predicate? allowed := by
      rw [Criterion.predicate?, Criterion.predicate?, ih]
    simp only [Position.fill, predicates_append, predicates, hgroup]

theorem predicates_singleton_eq_nil_iff (criterion : Criterion) :
    predicates allowed [criterion] = [] ↔ criterion.IsVacuous allowed := by
  rw [predicates_eq_nil_iff_forall, List.forall_mem_singleton]

/-- A group around a single criterion is compiled like the criterion itself. -/
theorem predicates_group_singleton (logic : Logic) (criterion : Criterion) :
    predicates allowed [.group logic [criterion]] = predicates allowed [criterion] := by
  simp only [predicates, Criterion.predicate?]
  cases criterion.predicate? allowed <;> rfl

end Positions

mutual
/-- A criterion without its conditions on fields that are not allowed; all groups stay. -/
def Criterion.restrict? (allowed : Option (List String)) : Criterion → Option Criterion
  | .condition field operator values =>
    if isAllowed allowed field then some (.condition field operator values) else none
  | .group logic members => some (.group logic (restrictAll allowed members))

/-- A list of criteria without their conditions on fields that are not allowed. -/
def restrictAll (allowed : Option (List String)) : List Criterion → List Criterion
  | [] => []
  | criterion :: rest =>
    match criterion.restrict? allowed with
    | some kept => kept :: restrictAll allowed rest
    | none => restrictAll allowed rest
end

mutual
theorem bind_restrict? (allowed : Option (List String)) : (criterion : Criterion) →
    (criterion.restrict? allowed).bind (·.predicate? none) = criterion.predicate? allowed
  | .condition field operator values => by
    rw [Criterion.restrict?, Criterion.predicate?]
    cases isAllowed allowed field <;> rfl
  | .group logic members => by
    rw [Criterion.restrict?, Option.bind_some, Criterion.predicate?, Criterion.predicate?,
      predicates_restrictAll allowed members]

/-- What is left once all fields are allowed but the conditions on other fields are deleted. -/
theorem predicates_restrictAll (allowed : Option (List String)) : (criteria : List Criterion) →
    predicates none (restrictAll allowed criteria) = predicates allowed criteria
  | [] => rfl
  | criterion :: rest => by
    have hfirst := bind_restrict? allowed criterion
    have hrest := predicates_restrictAll allowed rest
    rw [restrictAll, predicates, ← hfirst]
    cases criterion.restrict? allowed with
    | none => exact hrest
    | some kept =>
      rw [Option.bind_some, predicates, hrest]
end

/--
What constrains nothing is invisible. Exactly the vacuous criteria compile to an empty clause
without arguments. At any position in any list, a vacuous criterion changes neither the clause nor
the arguments, and a group around one criterion does not either. Hence a list of allowed fields has
the effect of deleting the conditions on all other fields.
-/
theorem compile_ignores_vacuous (allowed : Option (List String)) :
    (∀ criterion : Criterion,
      criterion.IsVacuous allowed ↔ compile [criterion] allowed = ⟨"", []⟩) ∧
    (∀ (position : Position) (criterion : Criterion), criterion.IsVacuous allowed →
      compile (position.fill [criterion]) allowed = compile (position.fill []) allowed) ∧
    (∀ (position : Position) (logic : Logic) (criterion : Criterion),
      compile (position.fill [.group logic [criterion]]) allowed =
        compile (position.fill [criterion]) allowed) ∧
    ∀ criteria : List Criterion,
      compile (restrictAll allowed criteria) none = compile criteria allowed := by
  refine ⟨fun criterion ↦ ?_, fun position criterion h ↦ ?_, fun position logic criterion ↦ ?_,
    fun criteria ↦ ?_⟩
  · rw [compile_eq_empty_iff, predicates_singleton_eq_nil_iff]
  · have hnone : predicates allowed [criterion] = predicates allowed [] :=
      (predicates_singleton_eq_nil_iff criterion).mpr h
    exact compile_congr (predicates_fill hnone position)
  · exact compile_congr (predicates_fill (predicates_group_singleton logic criterion) position)
  · exact compile_congr (predicates_restrictAll allowed criteria)

/-- Around a group of nothing but vacuous criteria, the parentheses stay as they are without it. -/
theorem compile_ignores_vacuous_group :
    (Criterion.group .and [.condition "secret" .equal ["x"],
        .group .or [.condition "code" .noneOf [], .condition "status" .between ["1"]]]).IsVacuous
      (some ["status", "code"]) ∧
    compile
        [.condition "status" .equal ["active"],
          .group .or
            [.condition "code" .like ["a"],
              .group .and [.condition "secret" .equal ["x"],
                .group .or [.condition "code" .noneOf [], .condition "status" .between ["1"]]],
              .condition "code" .isNull []]]
        (some ["status", "code"]) =
      ⟨"status = ? AND (code LIKE ? OR code IS NULL)", ["active", "%a%"]⟩ := by
  have hvacuous : (Criterion.group .and [.condition "secret" .equal ["x"],
      .group .or [.condition "code" .noneOf [], .condition "status" .between ["1"]]]).IsVacuous
      (some ["status", "code"]) := by
    decide
  refine ⟨hvacuous, ?_⟩
  exact ((compile_ignores_vacuous (some ["status", "code"])).2.1
    (.within [.condition "status" .equal ["active"]] .or
      (.top [.condition "code" .like ["a"]] [.condition "code" .isNull []]) []) _ hvacuous).trans
    (by decide)

def survivors (allowed : Option (List String)) (criteria : List Criterion) : List Criterion :=
  criteria.filter fun criterion ↦ ¬ criterion.IsVacuous allowed

theorem length_predicates (allowed : Option (List String)) (criteria : List Criterion) :
    (predicates allowed criteria).length = (survivors allowed criteria).length := by
  calc (predicates allowed criteria).length
    _ = criteria.countP fun criterion ↦ (criterion.predicate? allowed).isSome := by
      rw [predicates_eq_filterMap, List.length_filterMap_eq_countP]
    _ = criteria.countP fun criterion ↦ ¬ criterion.IsVacuous allowed := by
      apply List.countP_congr
      intro criterion _
      rw [decide_eq_true_iff, ← predicate?_eq_none_iff, Option.isSome_iff_ne_none]
    _ = (survivors allowed criteria).length := List.countP_eq_length_filter

theorem survivors_eq_nil_iff (allowed : Option (List String)) (criteria : List Criterion) :
    survivors allowed criteria = [] ↔ predicates allowed criteria = [] := by
  rw [← List.length_eq_zero_iff, ← List.length_eq_zero_iff, length_predicates]

theorem clause_compile_eq_empty_iff (allowed : Option (List String)) (criteria : List Criterion) :
    (compile criteria allowed).clause = "" ↔ survivors allowed criteria = [] :=
  (conjunctionText_eq_empty_iff _).trans (survivors_eq_nil_iff allowed criteria).symm

/-- What the group of the criteria behind a list of predicates compiles to. -/
theorem compileOne_group (allowed : Option (List String)) (logic : Logic)
    (criteria : List Criterion) :
    compileOne (.group logic criteria) allowed =
      match predicates allowed criteria with
      | [] => ⟨alwaysTrue, []⟩
      | [part] => ⟨part.text, part.operands⟩
      | parts => ⟨(Predicate.junction logic parts).text, Predicate.allOperands parts⟩ := by
  rw [compileOne, Criterion.predicate?]
  match predicates allowed criteria with
  | [] => rfl
  | [part] => rfl
  | first :: second :: others => rfl

/--
A list of criteria and the group that joins them by "and" have the same arguments. Where nothing
survives, the group compiles to what is always true; where one criterion survives, the two clauses
are the same; otherwise that of the group has parentheses around it. The clause of the list is empty
exactly where nothing survives, and then it has no arguments either.
-/
theorem compileOne_group_and (criteria : List Criterion) (allowed : Option (List String)) :
    compileOne (.group .and criteria) allowed =
        ⟨match (survivors allowed criteria).length with
          | 0 => "1=1"
          | 1 => (compile criteria allowed).clause
          | _ => "(" ++ (compile criteria allowed).clause ++ ")",
        (compile criteria allowed).args⟩ ∧
      ((compile criteria allowed).clause = "" ↔ survivors allowed criteria = []) ∧
      ((compile criteria allowed).clause = "" ↔ compile criteria allowed = ⟨"", []⟩) := by
  refine ⟨?_, clause_compile_eq_empty_iff allowed criteria, ?_⟩
  · rw [compileOne_group, ← length_predicates]
    unfold compile
    match predicates allowed criteria with
    | [] => rfl
    | [part] =>
      have hargs : Predicate.allOperands [part] = part.operands := List.append_nil _
      simp only [List.length_singleton, conjunctionText_singleton, hargs]
    | first :: second :: others => rfl
  · rw [compile_eq_empty_iff]
    exact conjunctionText_eq_empty_iff _

end ProtoCrud.Query
