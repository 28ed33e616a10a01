import ProtoCrud.Proofs.Query.ClauseShape
import ProtoCrud.Proofs.Record.Trace

/-!
# What the texts of statements depend on

Values reach a store only as arguments. The texts that an operation sends are determined by its
table, in an update also by the names of the assigned columns, and in a list by the shape of the
query; nothing that a caller can write into an operand, an id or a field name shows in them.
-/

namespace ProtoCrud.Record

open Sql Query

variable {α σ : Type}

def Session.texts (backend : Backend σ) (session : Session α) (state : σ) : List String :=
  (session.events backend state).map Event.text

def filterColumns : Statement → List String
  | .count _ filter => allColumns filter
  | .page _ _ filter _ _ => allColumns filter
  | _ => []

def orderColumn? : Statement → Option String
  | .page _ _ _ order _ => some order
  | _ => none

section Rows

variable (mapping : Mapping α) (backend : Backend σ) (state : σ)

theorem texts_get_within (id : String) :
    (get mapping id).texts backend state <+: [mapping.table.selection.text] :=
  (events_get_within mapping backend state id).map Event.text

theorem texts_create_within (row : NewRow) :
    (create mapping row).texts backend state <+:
      [mapping.table.insertion.text, mapping.table.selection.text] :=
  (events_create_within mapping backend state row).map Event.text

theorem texts_update_within (id : String) (changes : Changes) :
    (update mapping id changes).texts backend state <+:
      [(mapping.table.alteration (changes.assignments.map Prod.fst)).text,
        mapping.table.selection.text] :=
  (events_update_within mapping backend state id changes).map Event.text

theorem texts_delete_within (id : String) :
    (delete mapping id).texts backend state <+: [mapping.table.removal.text] :=
  (events_delete_within mapping backend state id).map Event.text

theorem texts_list (query : ListQuery) :
    (list mapping query).texts backend state = [(mapping.table.counting query).text] ∨
      (list mapping query).texts backend state =
        [(mapping.table.counting query).text, (mapping.table.paging query).text] := by
  rw [Session.texts, events_list]
  split
  · exact .inl rfl
  · split
    · exact .inl rfl
    · exact .inr rfl

theorem columns_list (query : ListQuery) :
    ∀ event ∈ (list mapping query).events backend state,
      filterColumns event.call.statement ⊆ mapping.table.filterable ∧
        ∀ column ∈ orderColumn? event.call.statement,
          IsSortable mapping.table.filterable column := by
  have hfilter : allColumns (mapping.table.condition query.filters) ⊆ mapping.table.filterable :=
    allColumns_predicates_subset mapping.table.filterable query.filters
  have hcount : ∀ column ∈ orderColumn? (mapping.table.counting query),
      IsSortable mapping.table.filterable column := nofun
  have hpage : ∀ column ∈ orderColumn? (mapping.table.paging query),
      IsSortable mapping.table.filterable column := by
    intro column hcolumn
    obtain rfl := Option.some.inj hcolumn
    exact isSortable_sortColumn query.pagination mapping.table.filterable
  intro event hevent
  have hwithin := (events_list_within mapping backend state query).subset hevent
  simp only [List.mem_cons, List.not_mem_nil, or_false] at hwithin
  rcases hwithin with rfl | rfl
  · exact ⟨hfilter, hcount⟩
  · exact ⟨hfilter, hpage⟩

end Rows

theorem filteredText_eq (name : String) {allowed : List String} {first second : List Criterion}
    (h : AllSameShape allowed first second) :
    filteredText name (predicates (some allowed) first) =
      filteredText name (predicates (some allowed) second) := by
  rw [filteredText, filteredText, Predicate.conjunctionText, Predicate.conjunctionText,
    h.isEmpty_predicates, h.texts_predicates]

theorem text_count (table : String) (filter : List Predicate) :
    (Statement.count table filter).text = "SELECT COUNT(*) FROM " ++ filteredText table filter :=
  rfl

theorem text_page (table : String) (columns : List String) (filter : List Predicate)
    (order direction : String) :
    (Statement.page table columns filter order direction).text =
      "SELECT " ++ commaList columns ++ " FROM " ++ filteredText table filter ++ " ORDER BY " ++
        order ++ " " ++ direction ++ " LIMIT ? OFFSET ?" :=
  rfl

/-- Queries of one shape have one text of the count and one text of the page. -/
theorem text_eq_of_sameShape (table : Table) {first second : ListQuery}
    (h : first.SameShape table.filterable second) :
    (table.counting first).text = (table.counting second).text ∧
      (table.paging first).text = (table.paging second).text := by
  have hfrom := filteredText_eq table.name h.filters
  have hdirection : first.pagination.direction = second.pagination.direction := by
    rw [Pagination.direction, Pagination.direction, h.descending]
  refine And.intro ?_ ?_
  · rw [Table.counting, Table.counting, text_count, text_count, Table.condition, Table.condition,
      hfrom]
  · rw [Table.paging, Table.paging, text_page, text_page, h.sortColumn_eq, hdirection,
      Table.condition, Table.condition, hfrom]

/--
The texts that reach a store say nothing about the input. For one table, those of a create, a get
and a delete begin a fixed list, and those of an update a list that depends on the assigned columns
alone; two lists of one shape send one text of the count and one of the page, even to different
stores. Every column in the condition of a list may be filtered on, and the column that orders it
may be sorted on.
-/
theorem texts_independent_of_input (table : Table) :
    (∀ (α σ : Type) (fromRow : Row → Except RowError α) (backend : Backend σ) (state : σ),
      (∀ row, (create ⟨table, fromRow⟩ row).texts backend state <+:
        [table.insertion.text, table.selection.text]) ∧
      (∀ id, (get ⟨table, fromRow⟩ id).texts backend state <+: [table.selection.text]) ∧
      (∀ id, (delete ⟨table, fromRow⟩ id).texts backend state <+: [table.removal.text]) ∧
      (∀ id changes, (update ⟨table, fromRow⟩ id changes).texts backend state <+:
        [(table.alteration (changes.assignments.map Prod.fst)).text, table.selection.text]) ∧
      ∀ query, ∀ event ∈ (list ⟨table, fromRow⟩ query).events backend state,
        filterColumns event.call.statement ⊆ table.filterable ∧
          ∀ column ∈ orderColumn? event.call.statement, IsSortable table.filterable column) ∧
    ∀ first second : ListQuery, first.SameShape table.filterable second →
      ∃ count page : String,
        ∀ (α σ : Type) (fromRow : Row → Except RowError α) (backend : Backend σ) (state : σ),
          ∀ query ∈ [first, second],
            (list ⟨table, fromRow⟩ query).texts backend state = [count] ∨
              (list ⟨table, fromRow⟩ query).texts backend state = [count, page] := by
  constructor
  · intro α σ fromRow backend state
    exact ⟨texts_create_within _ backend state, texts_get_within _ backend state,
      texts_delete_within _ backend state, texts_update_within _ backend state,
      columns_list _ backend state⟩
  · intro first second hshape
    obtain ⟨hcount, hpage⟩ := text_eq_of_sameShape table hshape
    refine ⟨(table.counting first).text, (table.paging first).text, ?_⟩
    intro α σ fromRow backend state query hquery
    simp only [List.mem_cons, List.not_mem_nil, or_false] at hquery
    rcases hquery with rfl | rfl
    · exact texts_list ⟨table, fromRow⟩ backend state query
    · rw [hcount, hpage]
      exact texts_list ⟨table, fromRow⟩ backend state query

def plainSearch : ListQuery :=
  ⟨[.condition "name" .equal ["gear"], .group .or [.condition "owner" .isNull []]],
    ⟨1, 20, "", true⟩⟩

/-- The same search with statements in its operand, in a field and in the column to sort on. -/
def hostileSearch : ListQuery :=
  ⟨[.condition "name" .equal ["'; DROP TABLE widget; --"],
      .group .or [.condition "1 = 1) OR (name" .notEqual ["x"]]],
    ⟨3, 50, "id; DELETE FROM widget", true⟩⟩

/-- The hostile search and the plain one send the same texts to every store. -/
theorem texts_independent_of_hostile_search :
    plainSearch.SameShape widgets.filterable hostileSearch ∧
      ∃ count page : String,
        ∀ (α σ : Type) (fromRow : Row → Except RowError α) (backend : Backend σ) (state : σ),
          ∀ query ∈ [plainSearch, hostileSearch],
            (list ⟨widgets, fromRow⟩ query).texts backend state = [count] ∨
              (list ⟨widgets, fromRow⟩ query).texts backend state = [count, page] := by
  have houtside : SameShape widgets.filterable (.condition "owner" .isNull [])
      (.condition "1 = 1) OR (name" .notEqual ["x"]) := .outside (by decide) (by decide)
  have hshape : plainSearch.SameShape widgets.filterable hostileSearch :=
    { filters := .cons (.operands rfl) (.cons (.group (.cons houtside .nil)) .nil)
      descending := rfl
      sortBy := .inr (by simp only [IsSortable]; decide) }
  exact ⟨hshape, (texts_independent_of_input widgets).2 plainSearch hostileSearch hshape⟩

end ProtoCrud.Record
