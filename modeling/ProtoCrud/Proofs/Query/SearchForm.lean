import ProtoCrud.Query.Search

/-!
# Queries as search messages

Every query has a search message that asks for it: the criteria with the numbers of their operators
and connectives, and the page as it is. The message is read as the same query again if the query has
a page, a page size and a sort column, as every query has that was read from a message. What is left
of the criteria of a message stands in their order, with their fields and values; at any depth, only
what is unset or has a number of no operator is missing.
-/

namespace ProtoCrud.Query

theorem ofNumber?_number (operator : Operator) :
    Operator.ofNumber? operator.number = some operator := by
  cases operator <;> decide

/-- A number stands for an operator if it is the number of the operator. -/
theorem ofNumber?_eq_some_iff {number : Int32} {operator : Operator} :
    Operator.ofNumber? number = some operator ↔ number = operator.number := by
  constructor
  · intro h
    have hown : Operator.all[operator.number.toInt.toNat]? = some operator := by
      cases operator <;> decide
    have hpositive : 0 ≤ operator.number.toInt := by
      cases operator <;> decide
    rw [Operator.ofNumber?] at h
    split at h
    · next hnumber =>
      obtain ⟨hlt, -⟩ := List.getElem?_eq_some_iff.mp h
      have hplace : number.toInt.toNat = operator.number.toInt.toNat :=
        (List.getElem?_inj hlt (by decide)).mp (h.trans hown.symm)
      have hnumber : 0 ≤ number.toInt := Int32.le_iff_toInt_le.mp hnumber
      apply Int32.toInt_inj.mp
      omega
    · cases h
  · rintro rfl
    exact ofNumber?_number operator

theorem ofNumber_number (logic : Logic) : Logic.ofNumber logic.number = logic := by
  cases logic <;> rfl

theorem ofNumber_eq_or_iff (number : Int32) :
    Logic.ofNumber number = .or ↔ number = Logic.number .or := by
  rw [Logic.ofNumber, Logic.number]
  split <;> simp_all

mutual
def Criterion.toSearch : Criterion → Search.Criterion
  | .condition field operator values => .condition field operator.number values
  | .group logic members => .group logic.number (toSearchAll members)

def toSearchAll : List Criterion → List Search.Criterion
  | [] => []
  | criterion :: rest => criterion.toSearch :: toSearchAll rest
end

namespace Search

theorem resolveAll_cons (criterion : Search.Criterion) (rest : List Search.Criterion) :
    resolveAll (criterion :: rest) = criterion.resolve?.toList ++ resolveAll rest := by
  rw [resolveAll]
  cases criterion.resolve? <;> rfl

mutual
theorem resolve?_toSearch : (criterion : Query.Criterion) →
    criterion.toSearch.resolve? = some criterion
  | .condition field operator values => by
    rw [Criterion.toSearch, Criterion.resolve?, ofNumber?_number, Option.map_some]
  | .group logic members => by
    rw [Criterion.toSearch, Criterion.resolve?, ofNumber_number, resolveAll_toSearchAll members]

/-- The criteria that ask for a list of criteria stand for it. -/
theorem resolveAll_toSearchAll : (criteria : List Query.Criterion) →
    resolveAll (toSearchAll criteria) = criteria
  | [] => rfl
  | criterion :: rest => by
    rw [toSearchAll, resolveAll_cons, resolve?_toSearch criterion, resolveAll_toSearchAll rest]
    rfl
end

/--
What travelling criteria stand for: the criteria in their order, without those that are unset or
have the number of no operator, each with its field and its values or with what its members stand
for. Members are joined by "and" unless they have the number of "or".
-/
inductive StandFor : List Search.Criterion → List Query.Criterion → Prop
  | nil : StandFor [] []
  | unset {rest : List Search.Criterion} {kept : List Query.Criterion}
      (hrest : StandFor rest kept) : StandFor (.unset :: rest) kept
  | unknown {field : String} {number : Int32} {values : List String}
      {rest : List Search.Criterion} {kept : List Query.Criterion}
      (hnumber : ∀ operator : Operator, number ≠ operator.number) (hrest : StandFor rest kept) :
      StandFor (.condition field number values :: rest) kept
  | condition {field : String} {operator : Operator} {values : List String}
      {rest : List Search.Criterion} {kept : List Query.Criterion} (hrest : StandFor rest kept) :
      StandFor (.condition field operator.number values :: rest)
        (.condition field operator values :: kept)
  | group {logic : Logic} {number : Int32} {members rest : List Search.Criterion}
      {inner kept : List Query.Criterion} (hlogic : logic = .or ↔ number = Logic.number .or)
      (hmembers : StandFor members inner) (hrest : StandFor rest kept) :
      StandFor (.group number members :: rest) (.group logic inner :: kept)

theorem StandFor.eq_resolveAll {sent : List Search.Criterion} {kept : List Query.Criterion}
    (h : StandFor sent kept) : kept = resolveAll sent := by
  induction h with
  | nil => rfl
  | unset _ ih => rw [resolveAll_cons, Criterion.resolve?, ← ih]; rfl
  | @unknown field number values rest kept hnumber _ ih =>
    have hnone : Operator.ofNumber? number = none := by
      rw [Option.eq_none_iff_forall_ne_some]
      exact fun operator hoperator ↦ hnumber operator (ofNumber?_eq_some_iff.mp hoperator)
    rw [resolveAll_cons, Criterion.resolve?, hnone, ← ih]
    rfl
  | condition _ ih =>
    rw [resolveAll_cons, Criterion.resolve?, ofNumber?_number, ← ih]
    rfl
  | @group logic number members rest inner kept hlogic _ _ ihMembers ihRest =>
    have hnumber : Logic.ofNumber number = logic := by
      rw [← ofNumber_eq_or_iff] at hlogic
      cases logic <;> cases h : Logic.ofNumber number <;> simp_all
    rw [resolveAll_cons, Criterion.resolve?, hnumber, ← ihMembers, ← ihRest]
    rfl

mutual
theorem standFor_cons : (criterion : Search.Criterion) → {rest : List Search.Criterion} →
    {kept : List Query.Criterion} → StandFor rest kept →
      StandFor (criterion :: rest) (criterion.resolve?.toList ++ kept)
  | .unset, _, _, h => .unset h
  | .condition field number values, rest, kept, h => by
    rw [Criterion.resolve?]
    cases hoperator : Operator.ofNumber? number with
    | none =>
      refine .unknown (fun operator hnumber ↦ ?_) h
      rw [ofNumber?_eq_some_iff.mpr hnumber] at hoperator
      cases hoperator
    | some operator =>
      obtain rfl := ofNumber?_eq_some_iff.mp hoperator
      exact .condition h
  | .group number members, rest, kept, h =>
    .group (ofNumber_eq_or_iff number) (standFor_resolveAll members) h

theorem standFor_resolveAll : (sent : List Search.Criterion) → StandFor sent (resolveAll sent)
  | [] => .nil
  | criterion :: rest => by
    rw [resolveAll_cons]
    exact standFor_cons criterion (standFor_resolveAll rest)
end

end Search

def Pagination.toRequest (pagination : Pagination) : PageRequest :=
  ⟨pagination.page, pagination.pageSize, pagination.sortBy, pagination.descending⟩

/-- Whether nothing of a page is left open. -/
structure Pagination.IsSettled (pagination : Pagination) : Prop where
  one_le_page : 1 ≤ pagination.page
  one_le_pageSize : 1 ≤ pagination.pageSize
  sortBy_ne : pagination.sortBy ≠ ""

theorem pos_iff_one_le {number : Int32} : 0 < number ↔ 1 ≤ number := by
  rw [Int32.lt_iff_toInt_lt, Int32.le_iff_toInt_le]
  exact Int.lt_iff_add_one_le

/-- Every page that was asked for, or not asked for, is settled. -/
theorem isSettled_resolve (request : Option PageRequest) :
    (Pagination.resolve request).IsSettled := by
  cases request with
  | none => exact ⟨by decide, by decide, by decide⟩
  | some request =>
    refine ⟨?_, ?_, ?_⟩ <;> dsimp only [Pagination.resolve] <;> split
    · next hpage => exact pos_iff_one_le.mp hpage
    · decide
    · next hsize => exact pos_iff_one_le.mp hsize
    · decide
    · decide
    · next hsort => exact hsort

/-- The settled pages are those that are shown when they are asked for. -/
theorem resolve_toRequest_iff {pagination : Pagination} :
    Pagination.resolve (some pagination.toRequest) = pagination ↔ pagination.IsSettled := by
  constructor
  · intro h
    rw [← h]
    exact isSettled_resolve _
  · intro h
    obtain ⟨page, pageSize, sortBy, descending⟩ := pagination
    obtain ⟨hpage, hsize, hsort⟩ := h
    dsimp only [Pagination.resolve, Pagination.toRequest] at hpage hsize hsort ⊢
    rw [if_pos (pos_iff_one_le.mpr hpage), if_pos (pos_iff_one_le.mpr hsize), if_neg hsort]

def ListQuery.toSearch (query : ListQuery) : Search :=
  ⟨toSearchAll query.filters, some query.pagination.toRequest⟩

theorem ofSearch_toSearch_iff {query : ListQuery} :
    ListQuery.ofSearch (some query.toSearch) = query ↔ query.pagination.IsSettled := by
  obtain ⟨filters, pagination⟩ := query
  rw [ListQuery.ofSearch, ListQuery.toSearch, ListQuery.mk.injEq, resolve_toRequest_iff]
  exact and_iff_right (Search.resolveAll_toSearchAll filters)

theorem isSettled_ofSearch (search : Option Search) :
    (ListQuery.ofSearch search).pagination.IsSettled := by
  cases search with
  | none => exact isSettled_resolve none
  | some search => exact isSettled_resolve search.pagination

/--
A query is read again from the search that asks for it if and only if it has a page, a page size
and a sort column. Every query that was read has them, so that reading the search for it changes
nothing. And it has exactly the criteria that those of the search stand for.
-/
theorem ofSearch_toSearch :
    (∀ query : ListQuery, ListQuery.ofSearch (some query.toSearch) = query ↔
        1 ≤ query.pagination.page ∧ 1 ≤ query.pagination.pageSize ∧
          query.pagination.sortBy ≠ "") ∧
      (∀ search : Option Search,
        ListQuery.ofSearch (some (ListQuery.ofSearch search).toSearch) =
          ListQuery.ofSearch search) ∧
      ∀ (search : Search) (criteria : List Criterion),
        Search.StandFor search.filters criteria ↔
          (ListQuery.ofSearch (some search)).filters = criteria := by
  refine ⟨fun query ↦ ?_, fun search ↦ ?_, fun search criteria ↦ ?_⟩
  · exact ofSearch_toSearch_iff.trans
      ⟨fun ⟨hpage, hsize, hsort⟩ ↦ ⟨hpage, hsize, hsort⟩, fun ⟨hpage, hsize, hsort⟩ ↦
        ⟨hpage, hsize, hsort⟩⟩
  · exact ofSearch_toSearch_iff.mpr (isSettled_ofSearch search)
  · constructor
    · exact fun h ↦ h.eq_resolveAll.symm
    · rintro rfl
      exact Search.standFor_resolveAll search.filters

end ProtoCrud.Query
