import ProtoCrud.Proofs.Sql.ClauseText
import ProtoCrud.Query.Filter

/-!
# What a compiled filter means

A filter tree means what is left of it once everything that constrains nothing has been pruned
away: conditions on fields that are not allowed, conditions with too few values, and groups of
which nothing is left. The main statement, `compile_reads_as_pruned`, is that the clause compiled
from a list of criteria reads as the conjunction of the pruned criteria, for every nesting of
groups, and that its arguments are exactly those of the leaves.
-/

namespace ProtoCrud.Query

open Sql

/-- The values of a condition as they are bound; `none` if there are too few of them. -/
def boundValues? : Operator → List String → Option (List String)
  | .like, value :: _ => some ["%" ++ value ++ "%"]
  | .oneOf, values => some values
  | .noneOf, value :: values => some (value :: values)
  | .isNull, _ => some []
  | .isNotNull, _ => some []
  | .between, low :: high :: _ => some [low, high]
  | .between, [_] => none
  | _, value :: _ => some [value]
  | _, [] => none

mutual
def Criterion.prune? (allowed : List String) : Criterion → Option Criterion
  | .condition field operator values =>
    if field ∈ allowed then (boundValues? operator values).map (.condition field operator)
    else none
  | .group logic members =>
    match pruneAll allowed members with
    | [] => none
    | kept => some (.group logic kept)

def pruneAll (allowed : List String) : List Criterion → List Criterion
  | [] => []
  | criterion :: rest =>
    match criterion.prune? allowed with
    | some kept => kept :: pruneAll allowed rest
    | none => pruneAll allowed rest
end

section Meaning

variable {T : Type} [Lattice T] [BoundedOrder T] (truth : Leaf (List String) → T)

/-- The truth value of a condition; membership in no values at all is false. -/
def conditionValue (leaf : Leaf (List String)) : T :=
  if leaf.operator = .oneOf ∧ leaf.operands = [] then ⊥ else truth leaf

mutual
def Criterion.value : Criterion → T
  | .condition field operator values => conditionValue truth ⟨field, operator, values⟩
  | .group logic members => combineAll logic (truthValues members)

def truthValues : List Criterion → List T
  | [] => []
  | criterion :: rest => criterion.value :: truthValues rest
end

theorem value_joinOnward (logic : Logic) (parts : List Predicate)
    (first : Clause (List String)) :
    (Predicate.joinOnward logic first parts).value truth =
      combine logic (first.value truth)
        (combineAll logic (parts.map fun part ↦ part.clause.value truth)) := by
  induction parts generalizing first with
  | nil => exact (combine_neutral logic _).symm
  | cons part parts ih =>
    rw [Predicate.joinOnward, ih, Clause.value, combine_assoc]
    rfl

theorem value_joinedClause (logic : Logic) (parts : List Predicate) :
    (Predicate.joinedClause logic parts).value truth =
      combineAll logic (parts.map fun part ↦ part.clause.value truth) := by
  cases parts with
  | nil => cases logic <;> rfl
  | cons part parts => exact value_joinOnward truth logic parts part.clause

theorem map_value_conditionPredicate? (field : String) (operator : Operator)
    (values : List String) :
    (conditionPredicate? field operator values).map (fun part ↦ part.clause.value truth) =
      (boundValues? operator values).map fun bound ↦
        conditionValue truth ⟨field, operator, bound⟩ := by
  cases operator <;> rcases values with _ | ⟨first, _ | ⟨second, others⟩⟩ <;> rfl

theorem map_value_groupPredicate? (logic : Logic) (parts : List Predicate) :
    (groupPredicate? logic parts).map (fun part ↦ part.clause.value truth) =
      match parts.map fun part ↦ part.clause.value truth with
      | [] => none
      | left => some (combineAll logic left) := by
  match parts with
  | [] => rfl
  | [part] => exact congrArg some (combine_neutral logic _).symm
  | first :: second :: others => exact congrArg some (value_joinedClause truth logic _)

mutual
/-- Compiling a criterion and pruning it leave the same truth value, or both leave nothing. -/
theorem map_value_predicate? (allowed : List String) : (criterion : Criterion) →
    (criterion.predicate? (some allowed)).map (fun part ↦ part.clause.value truth) =
      (criterion.prune? allowed).map (·.value truth)
  | .condition field operator values => by
    by_cases h : field ∈ allowed
    · rw [Criterion.predicate?, if_pos (show isAllowed (some allowed) field by simpa [isAllowed]),
        Criterion.prune?, if_pos h, map_value_conditionPredicate?, Option.map_map]
      rfl
    · rw [Criterion.predicate?, if_neg (show ¬ isAllowed (some allowed) field by simpa [isAllowed]),
        Criterion.prune?, if_neg h]
      rfl
  | .group logic members => by
    have hmembers := map_value_predicates allowed members
    rw [Criterion.predicate?, map_value_groupPredicate?, hmembers, Criterion.prune?]
    cases pruneAll allowed members <;> rfl

theorem map_value_predicates (allowed : List String) : (criteria : List Criterion) →
    (predicates (some allowed) criteria).map (fun part ↦ part.clause.value truth) =
      truthValues truth (pruneAll allowed criteria)
  | [] => rfl
  | criterion :: rest => by
    have hfirst := map_value_predicate? allowed criterion
    have hrest := map_value_predicates allowed rest
    rw [predicates, pruneAll]
    cases hpredicate : criterion.predicate? (some allowed) with
    | none =>
      rw [hpredicate] at hfirst
      rw [Option.map_eq_none_iff.mp hfirst.symm]
      exact hrest
    | some part =>
      rw [hpredicate] at hfirst
      obtain ⟨kept, hkept, hvalue⟩ := Option.map_eq_some_iff.mp hfirst.symm
      rw [hkept, List.map_cons, hrest]
      exact congrArg (· :: _) hvalue.symm
end

end Meaning

section Readable

variable (dialect : Dialect)

theorem isReadable_conditionPredicate? {field : String} (hfield : dialect.IsIdentifier field)
    (operator : Operator) (values : List String) :
    ∀ part ∈ conditionPredicate? field operator values, part.IsReadable dialect := by
  intro part hpart
  cases operator <;> rcases values with _ | ⟨first, _ | ⟨second, others⟩⟩ <;> cases hpart <;>
    first | trivial | exact ⟨hfield, trivial⟩ | exact ⟨hfield, List.cons_ne_nil _ _⟩

theorem isReadable_groupPredicate? (logic : Logic) {parts : List Predicate}
    (hparts : Predicate.AllReadable dialect parts) :
    ∀ part ∈ groupPredicate? logic parts, part.IsReadable dialect := by
  intro part hpart
  match parts with
  | [] => cases hpart
  | [single] =>
    cases hpart
    exact hparts.1
  | first :: second :: others =>
    cases hpart
    exact ⟨List.cons_ne_nil _ _, hparts⟩

mutual
theorem isReadable_predicate? {allowed : List String}
    (hallowed : ∀ field ∈ allowed, dialect.IsIdentifier field) : (criterion : Criterion) →
    ∀ part ∈ criterion.predicate? (some allowed), part.IsReadable dialect
  | .condition field operator values => by
    intro part hpart
    rw [Criterion.predicate?] at hpart
    split at hpart
    · next h =>
      have hmem : field ∈ allowed := by simpa [isAllowed] using h
      exact isReadable_conditionPredicate? dialect (hallowed field hmem) operator values part hpart
    · cases hpart
  | .group logic members => by
    intro part hpart
    rw [Criterion.predicate?] at hpart
    exact isReadable_groupPredicate? dialect logic (allReadable_predicates hallowed members) part
      hpart

theorem allReadable_predicates {allowed : List String}
    (hallowed : ∀ field ∈ allowed, dialect.IsIdentifier field) : (criteria : List Criterion) →
    Predicate.AllReadable dialect (predicates (some allowed) criteria)
  | [] => trivial
  | criterion :: rest => by
    rw [predicates]
    cases hpart : criterion.predicate? (some allowed) with
    | none => exact allReadable_predicates hallowed rest
    | some part =>
      exact ⟨isReadable_predicate? hallowed criterion part hpart,
        allReadable_predicates hallowed rest⟩
end

end Readable

/-- Nothing is compiled exactly when nothing is left after pruning. -/
theorem predicates_eq_nil_iff (allowed : List String) (criteria : List Criterion) :
    predicates (some allowed) criteria = [] ↔ pruneAll allowed criteria = [] := by
  have hvalues := map_value_predicates (fun _ ↦ true) allowed criteria
  constructor
  · intro h
    rw [h] at hvalues
    cases hkept : pruneAll allowed criteria with
    | nil => rfl
    | cons kept others =>
      rw [hkept] at hvalues
      cases hvalues
  · intro h
    rw [h] at hvalues
    exact List.map_eq_nil_iff.mp hvalues

/--
A compiled clause reads as the conjunction of the pruned criteria. If nothing is left of them, the
clause and its arguments are empty. Otherwise the clause can be read, its placeholders take exactly
the arguments, and the bound clause has the truth value of the conjunction, whatever truth values
its leaves have and however many truth values there are.
-/
theorem compile_reads_as_pruned (dialect : Dialect) (criteria : List Criterion)
    (allowed : List String) (hallowed : ∀ field ∈ allowed, dialect.IsIdentifier field) :
    (pruneAll allowed criteria = [] → compile criteria (some allowed) = ⟨"", []⟩) ∧
      (pruneAll allowed criteria ≠ [] →
        ∃ clause bound,
          dialect.clause? (compile criteria (some allowed)).clause = some clause ∧
          clause.bind? (compile criteria (some allowed)).args = some (bound, []) ∧
          ∀ (T : Type) [Lattice T] [BoundedOrder T] (truth : Leaf (List String) → T),
            bound.value truth =
              combineAll .and (truthValues truth (pruneAll allowed criteria))) := by
  constructor
  · intro hnone
    have hparts := (predicates_eq_nil_iff allowed criteria).mpr hnone
    rw [compile, hparts]
    rfl
  · intro hsome
    have hparts : predicates (some allowed) criteria ≠ [] :=
      fun h ↦ hsome ((predicates_eq_nil_iff allowed criteria).mp h)
    obtain ⟨hread, hbind⟩ := Predicate.clause?_conjunctionText dialect hparts
      (allReadable_predicates dialect hallowed criteria)
    refine ⟨_, _, hread, hbind, fun T _ _ truth ↦ ?_⟩
    rw [value_joinedClause, map_value_predicates]

/-- An `OR` of a list and an `AND` keeps its parentheses; a field outside the list is left out. -/
theorem compile_nested_reads_as_pruned :
    (∀ field ∈ ["status", "code"], Dialect.caseless.IsIdentifier field) ∧
      ∃ clause bound,
        Dialect.caseless.clause?
          "status = ? AND (code IN (?, ?) OR (status LIKE ? AND code BETWEEN ? AND ?))" =
            some clause ∧
        clause.bind? ["active", "a", "b", "%c%", "1", "2"] = some (bound, []) ∧
        ∀ truth : Leaf (List String) → Truth,
          bound.value truth =
            truth ⟨"status", .equal, ["active"]⟩ ⊓
              (truth ⟨"code", .oneOf, ["a", "b"]⟩ ⊔
                (truth ⟨"status", .like, ["%c%"]⟩ ⊓ truth ⟨"code", .between, ["1", "2"]⟩)) := by
  have hallowed : ∀ field ∈ ["status", "code"], Dialect.caseless.IsIdentifier field := by
    intro field hfield
    simp only [List.mem_cons, List.not_mem_nil, or_false] at hfield
    rcases hfield with rfl | rfl <;>
      exact ⟨.of_all (by decide) (by decide), by decide, by decide⟩
  obtain ⟨clause, bound, hread, hbind, hvalue⟩ :=
    (compile_reads_as_pruned Dialect.caseless
      [.condition "status" .equal ["active", "ignored"],
        .condition "secret" .equal ["x"],
        .group .or
          [.condition "code" .oneOf ["a", "b"],
            .group .and [.condition "status" .like ["c"], .group .or [],
              .condition "code" .between ["1", "2"]]]]
      ["status", "code"] hallowed).2 (by decide)
  refine ⟨hallowed, clause, bound, hread, hbind, fun truth ↦ ?_⟩
  rw [hvalue Truth truth]
  simp [pruneAll, Criterion.prune?, boundValues?, truthValues, Criterion.value, conditionValue,
    combineAll, combine, neutral]

end ProtoCrud.Query
