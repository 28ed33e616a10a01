import ProtoCrud.Proofs.Query.Vacuous
import ProtoCrud.Proofs.Record.Exchange
import ProtoCrud.Proofs.Record.Paging
import ProtoCrud.Proofs.Record.SentText
import ProtoCrud.Proofs.Sql.Placeholders

/-!
# The two statements of a list

A list first counts the rows that satisfy its criteria and then reads a page of them. The two
statements name the same rows: they have the text behind `FROM` in common, up to the sort order of
the page, and the arguments of the count are the first ones of the page. Both can be run, since each
has as many arguments as placeholders. What a list returns are all the rows of the answer to its
second statement, decoded in order.
-/

namespace ProtoCrud.Record

open Sql Query

structure Table.HasPlainNames (table : Table) : Prop where
  name : HasNoPlaceholder table.name
  selected : ∀ column ∈ table.selected, HasNoPlaceholder column
  filterable : ∀ column ∈ table.filterable, HasNoPlaceholder column

/-- Two calls, one of which counts the rows that the other one reads a page of. -/
structure SharesFilter (table : Table) (query : ListQuery) (count page : Call) : Prop where
  /-- The texts agree from the table on, and the keyword is there exactly if something survives. -/
  texts : ∃ source : String,
    source = table.name ++
        (if survivors (some table.filterable) query.filters = [] then ""
        else " WHERE " ++ (compile query.filters (some table.filterable)).clause) ∧
      count.statement.text = "SELECT COUNT(*) FROM " ++ source ∧
      page.statement.text = "SELECT " ++ commaList table.selected ++ " FROM " ++ source ++
        " ORDER BY " ++ query.pagination.sortColumn table.filterable ++ " " ++
        query.pagination.direction ++ " LIMIT ? OFFSET ?"
  countArgs : count.args = (compile query.filters (some table.filterable)).args.map .text
  pageArgs : page.args =
    count.args ++ [.int query.pagination.pageSize.toInt64, .int query.pagination.offset]
  placeholders : ∀ call ∈ [count, page],
    placeholderCount call.statement.text = call.args.length

section Tables

variable {table : Table} (query : ListQuery)

/-- The keyword stands in front of the condition, and it stands there only if there is one. -/
theorem filteredText_condition :
    filteredText table.name (table.condition query.filters) = table.name ++
      (if survivors (some table.filterable) query.filters = [] then ""
      else " WHERE " ++ (compile query.filters (some table.filterable)).clause) := by
  unfold filteredText
  by_cases hnone : table.condition query.filters = []
  · have hsurvivors : survivors (some table.filterable) query.filters = [] :=
      (survivors_eq_nil_iff _ _).mpr hnone
    rw [if_pos hsurvivors, if_pos (List.isEmpty_iff.mpr hnone), String.append_empty]
  · have hsurvivors : survivors (some table.filterable) query.filters ≠ [] :=
      fun h ↦ hnone ((survivors_eq_nil_iff _ _).mp h)
    rw [if_neg hsurvivors, if_neg (by rwa [List.isEmpty_iff]), String.append_assoc]
    rfl

/-- No placeholder comes from the name of a column. -/
theorem Table.HasPlainNames.condition (h : table.HasPlainNames) :
    ∀ column ∈ allColumns (table.condition query.filters), HasNoPlaceholder column := by
  intro column hcolumn
  exact h.filterable column (allColumns_predicates_subset table.filterable query.filters hcolumn)

theorem Table.HasPlainNames.sortColumn (h : table.HasPlainNames) :
    HasNoPlaceholder (query.pagination.sortColumn table.filterable) := by
  have hstandard : ∀ column ∈ standardColumns, HasNoPlaceholder column := by
    unfold HasNoPlaceholder
    decide
  rcases isSortable_sortColumn query.pagination table.filterable with hfilterable | hcolumn
  · exact h.filterable _ hfilterable
  · exact hstandard _ hcolumn

theorem placeholderCount_direction (pagination : Pagination) :
    placeholderCount pagination.direction = 0 := by
  unfold Pagination.direction
  split <;> rfl

theorem placeholderCount_source (h : table.HasPlainNames) :
    placeholderCount (filteredText table.name (table.condition query.filters)) =
      (table.filterArgs query).length := by
  rw [placeholderCount_filteredText h.name (h.condition query), Table.filterArgs, List.length_map]

theorem placeholderCount_counting (h : table.HasPlainNames) :
    placeholderCount (table.counting query).text = (table.filterArgs query).length := by
  have hkeyword : placeholderCount "SELECT COUNT(*) FROM " = 0 := rfl
  rw [Table.counting, text_count, placeholderCount_append, placeholderCount_source query h,
    hkeyword, Nat.zero_add]

theorem placeholderCount_paging (h : table.HasPlainNames) :
    placeholderCount (table.paging query).text = (table.filterArgs query).length + 2 := by
  have hselect : placeholderCount "SELECT " = 0 := rfl
  have hfrom : placeholderCount " FROM " = 0 := rfl
  have horder : placeholderCount " ORDER BY " = 0 := rfl
  have hblank : placeholderCount " " = 0 := rfl
  have hwindow : placeholderCount " LIMIT ? OFFSET ?" = 2 := rfl
  rw [Table.paging, text_page]
  simp only [placeholderCount_append, placeholderCount_source query h,
    placeholderCount_commaList h.selected, (h.sortColumn query).placeholderCount_eq,
    placeholderCount_direction, hselect, hfrom, horder, hblank, hwindow]
  omega

/-- The two calls of a list share its filter. -/
theorem sharesFilter_calls (h : table.HasPlainNames) :
    SharesFilter table query (table.countCall query) (table.pageCall query) where
  texts := ⟨_, filteredText_condition query, text_count _ _, text_page _ _ _ _ _⟩
  countArgs := rfl
  pageArgs := rfl
  placeholders := by
    intro call hcall
    simp only [List.mem_cons, List.not_mem_nil, or_false] at hcall
    rcases hcall with rfl | rfl
    · exact placeholderCount_counting query h
    · calc placeholderCount (table.paging query).text
        _ = (table.filterArgs query).length + 2 := placeholderCount_paging query h
        _ = (table.pageCall query).args.length := by
          rw [Table.pageCall, List.length_append]
          rfl

end Tables

section Runs

variable {α σ : Type} {mapping : Mapping α} {query : ListQuery} {backend : Backend σ} {state : σ}

/-- If a list makes two calls, they are its count and its page, and it returns what the page has. -/
theorem exchanges_list_eq_pair {first second : Exchange}
    (h : (list mapping query).exchanges backend state = [first, second]) :
    ∃ (total : Int64) (counted : Answer (Option Row)) (fetched : Answer (List Row)),
      first = .fetchedOptional (mapping.table.countCall query) [.int] counted ∧
      second = .fetchedAll (mapping.table.pageCall query) mapping.table.shape fetched ∧
      ((list mapping query).run backend state).1 = mapping.readPage query total fetched := by
  rcases list_cases mapping backend state query with
    ⟨e, hexchanges, -⟩ | ⟨row, e, -, hexchanges, -⟩ | ⟨row, total, answer, -, hexchanges, hresult⟩
  · cases hexchanges.symm.trans h
  · cases hexchanges.symm.trans h
  · cases hexchanges.symm.trans h
    exact ⟨total, .ok row, answer, rfl, rfl, hresult⟩

/-- A page that was read has all fetched rows, decoded, in order. -/
theorem readPage_eq_ok {total : Int64} {fetched : Answer (List Row)} {page : Page α}
    (h : mapping.readPage query total fetched = .ok page) :
    ∃ rows, fetched = .ok rows ∧
      List.Forall₂ (fun row item ↦ mapping.fromRow row = .ok item) rows page.items := by
  cases fetched with
  | error e => cases h
  | ok rows =>
    refine ⟨rows, rfl, ?_⟩
    rw [Mapping.readPage] at h
    cases hrows : mapping.decodeAll rows with
    | error e =>
      rw [hrows] at h
      cases h
    | ok items =>
      rw [hrows] at h
      cases h
      exact decodeAll_eq_ok_iff.mp hrows

/--
A list reads its page under the condition under which it counted. If a store lets a list make both
its calls, they have the text from the table to the end of the condition in common, with the keyword
in it exactly if some criterion survives; the arguments of the page are those of the count, the size
and the offset; and each text has as many placeholders as it has arguments. If the list succeeds, it
returns every fetched row, decoded, in order.
-/
theorem list_sharesFilter (htable : mapping.table.HasPlainNames) {first second : Exchange}
    (h : (list mapping query).exchanges backend state = [first, second]) :
    ∃ count page : Call,
      first.event = .fetchOptional count [.int] ∧
      second.event = .fetchAll page mapping.table.shape ∧
      SharesFilter mapping.table query count page ∧
      ∀ result, ((list mapping query).run backend state).1 = .ok result →
        ∃ rows, second = .fetchedAll page mapping.table.shape (.ok rows) ∧
          List.Forall₂ (fun row item ↦ mapping.fromRow row = .ok item) rows result.items := by
  obtain ⟨total, counted, fetched, rfl, rfl, hresult⟩ := exchanges_list_eq_pair h
  refine ⟨_, _, rfl, rfl, sharesFilter_calls query htable, fun result hok ↦ ?_⟩
  obtain ⟨rows, rfl, hitems⟩ := readPage_eq_ok (hresult.symm.trans hok)
  exact ⟨rows, rfl, hitems⟩

end Runs

/-- The second of the widgets with a gear in their name; who owns them may not be asked. -/
def secondGear : ListQuery :=
  ⟨[.condition "name" .like ["gear"], .condition "owner" .isNull []], ⟨2, 1, "name", false⟩⟩

theorem list_sharesFilter_secondGear :
    widgets.HasPlainNames ∧
      (list firstName secondGear).exchanges shelf 0 =
        [.fetchedOptional (widgets.countCall secondGear) [.int] (.ok (some ⟨[.int 3]⟩)),
          .fetchedAll (widgets.pageCall secondGear) widgets.shape (.ok [⟨[.text "nut"]⟩])] ∧
      ((list firstName secondGear).run shelf 0).1 = .ok ⟨["nut"], 3, 2, 1⟩ ∧
      SharesFilter widgets secondGear (widgets.countCall secondGear)
        (widgets.pageCall secondGear) ∧
      List.Forall₂ (fun row item ↦ firstName.fromRow row = .ok item) [⟨[.text "nut"]⟩] ["nut"] := by
  have hnames : widgets.HasPlainNames := by
    refine ⟨?_, ?_, ?_⟩ <;> (unfold HasNoPlaceholder; decide)
  have hexchanges : (list firstName secondGear).exchanges shelf 0 =
      [.fetchedOptional (widgets.countCall secondGear) [.int] (.ok (some ⟨[.int 3]⟩)),
        .fetchedAll (widgets.pageCall secondGear) widgets.shape (.ok [⟨[.text "nut"]⟩])] :=
    rfl
  have hrun : ((list firstName secondGear).run shelf 0).1 = .ok ⟨["nut"], 3, 2, 1⟩ := rfl
  obtain ⟨count, page, hcount, hpage, hshares, hresult⟩ := list_sharesFilter hnames hexchanges
  cases hcount
  cases hpage
  obtain ⟨rows, hrows, hitems⟩ := hresult _ hrun
  cases hrows
  exact ⟨hnames, hexchanges, hrun, hshares, hitems⟩

end ProtoCrud.Record
