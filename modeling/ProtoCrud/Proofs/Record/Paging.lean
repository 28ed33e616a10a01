import Mathlib.Algebra.Group.Nat.Defs
import Mathlib.Data.List.Forall2
import ProtoCrud.Proofs.Query.PageOffset
import ProtoCrud.Proofs.Record.Trace
import ProtoCrud.Proofs.Sql.Reading

/-!
# Paging through a list

A store that keeps a list of rows counts them all and shows the window of them that a page call
asks for with the arguments of its limit and its offset. Read one after the other, the pages of a
list lose and repeat nothing: they are the list from its beginning. The windows of the pages lie
side by side because no offset is too large for its sixty-four bits.
-/

namespace ProtoCrud.Record

open Sql Query

/-- The part of a list that a limit and an offset select. -/
def window {β : Type} (limit offset : Int64) (entries : List β) : List β :=
  (entries.drop offset.toNatClampNeg).take limit.toNatClampNeg

/-- Whether a call is bound to a limit and an offset; the last two placeholders are theirs. -/
structure HasWindow (call : Call) (limit offset : Int64) : Prop where
  text : " LIMIT ? OFFSET ?".toList <:+ call.statement.text.toList
  args : [.int limit, .int offset] <:+ call.args

/-- The query for the page behind the first `before` pages. -/
def pageBehind (query : ListQuery) (before : Nat) : ListQuery :=
  { query with pagination := { query.pagination with page := Int32.ofNat (before + 1) } }

def pageLength (query : ListQuery) : Nat :=
  query.pagination.pageSize.toNatClampNeg

theorem toInt_page {before : Nat} (h : before + 1 < 2 ^ 31) :
    (Int32.ofNat (before + 1)).toInt = (before + 1 : Nat) :=
  Int32.toInt_ofNat_of_lt h

/-- The offset of a page is the number of rows on the pages in front of it. -/
theorem toNatClampNeg_offset {query : ListQuery} (hsize : 0 < query.pagination.pageSize)
    {before : Nat} (h : before + 1 < 2 ^ 31) :
    (pageBehind query before).pagination.offset.toNatClampNeg = before * pageLength query := by
  have hpage : (pageBehind query before).pagination.page.toInt = (before + 1 : Nat) := toInt_page h
  have hlength : query.pagination.pageSize.toInt = (pageLength query : Int) := by
    have hpositive : 0 < query.pagination.pageSize.toInt := Int32.lt_iff_toInt_lt.mp hsize
    unfold pageLength
    rw [← Int32.toNat_toInt]
    omega
  rw [← Int64.toNat_toInt, Pagination.toInt_offset, hpage]
  change (((before + 1 : Nat) - 1 : Int) * query.pagination.pageSize.toInt).toNat = _
  rw [hlength]
  push_cast
  rw [Int.add_sub_cancel, ← Int.natCast_mul, Int.toNat_natCast]

/-- The end of a joined text. -/
theorem suffix_toList_append (front back : String) :
    back.toList <:+ (front ++ back).toList := by
  rw [String.toList_append]
  exact List.suffix_append _ _

/-- The limit and the offset are the last arguments of a page call, as they are in its text. -/
theorem hasWindow_pageCall (table : Table) (query : ListQuery) :
    HasWindow (table.pageCall query) query.pagination.pageSize.toInt64 query.pagination.offset where
  text := suffix_toList_append _ " LIMIT ? OFFSET ?"
  args := ⟨table.filterArgs query, rfl⟩

/--
A store that shows a list of rows for a query, in every state that a condition holds of and that
its calls keep. What it answers to a page call depends on the window alone.
-/
structure Shows {σ : Type} (backend : Backend σ) (table : Table) (query : ListQuery)
    (rows : List Row) (holds : σ → Prop) : Prop where
  count : ∀ state, holds state → ∃ (total : Int64) (next : σ),
    total.toInt = rows.length ∧ holds next ∧
      backend.fetchOptional (table.countCall query) [.int] state =
        (.ok (some ⟨[.int total]⟩), next)
  page : ∀ (call : Call) (limit offset : Int64),
    call.statement.text = (table.paging query).text → table.filterArgs query <+: call.args →
      HasWindow call limit offset → ∀ state, holds state → ∃ next, holds next ∧
        backend.fetchAll call table.shape state = (.ok (window limit offset rows), next)

def Session.runEach {α σ : Type} (backend : Backend σ) : List (Session α) → σ → List α × σ
  | [], state => ([], state)
  | session :: sessions, state =>
    let (result, next) := session.run backend state
    let (results, last) := runEach backend sessions next
    (result :: results, last)

theorem Session.runEach_concat {α σ : Type} (backend : Backend σ) (sessions : List (Session α))
    (session : Session α) (state : σ) :
    Session.runEach backend (sessions ++ [session]) state =
      ((Session.runEach backend sessions state).1 ++
          [(session.run backend (Session.runEach backend sessions state).2).1],
        (session.run backend (Session.runEach backend sessions state).2).2) := by
  induction sessions generalizing state with
  | nil => rfl
  | cons first sessions ih =>
    simp only [List.cons_append, Session.runEach, ih]

section Lists

variable {α σ : Type} {mapping : Mapping α} {backend : Backend σ} {query : ListQuery}
  {rows : List Row} {records : List α} {holds : σ → Prop} {state : σ}

theorem readTotal_int (table : Table) (total : Int64) :
    readTotal table (some ⟨[.int total]⟩) = .ok total := by
  have hread : ColumnType.int64.read (.int total) = .ok total := read_toValue (.whole .int64) total
  simp only [readTotal, Row.cursor, Cursor.take, hread, Except.mapError]

/-- Rows decode together exactly if they decode one by one. -/
theorem decodeAll_eq_ok_iff :
    mapping.decodeAll rows = .ok records ↔
      List.Forall₂ (fun row record ↦ mapping.fromRow row = .ok record) rows records := by
  constructor
  · intro h
    induction rows generalizing records with
    | nil =>
      cases h
      exact .nil
    | cons row rows ih =>
      rw [Mapping.decodeAll, Mapping.decode] at h
      cases hrow : mapping.fromRow row with
      | error e =>
        rw [hrow] at h
        cases h
      | ok record =>
        cases hrows : mapping.decodeAll rows with
        | error e =>
          rw [hrow, hrows] at h
          cases h
        | ok others =>
          rw [hrow, hrows] at h
          cases h
          exact .cons hrow (ih hrows)
  · intro h
    induction h with
    | nil => rfl
    | cons hrow _ ih =>
      rw [Mapping.decodeAll, Mapping.decode, hrow, ih]
      rfl

/-- A page of the list has the records behind those of the pages in front of it. -/
theorem run_pageBehind (hshows : Shows backend mapping.table query rows holds)
    (hdecodes : List.Forall₂ (fun row record ↦ mapping.fromRow row = .ok record) rows records)
    (hsize : 0 < query.pagination.pageSize) {before : Nat} (hbefore : before + 1 < 2 ^ 31)
    (hstate : holds state) :
    ∃ (total : Int64) (next : σ), total.toInt = rows.length ∧ holds next ∧
      (list mapping (pageBehind query before)).run backend state =
        (.ok ⟨(records.drop (before * pageLength query)).take (pageLength query), total,
          Int32.ofNat (before + 1), query.pagination.pageSize⟩, next) := by
  obtain ⟨total, counted, htotal, hcounted, hcount⟩ := hshows.count state hstate
  let shown := pageBehind query before
  obtain ⟨next, hnext, hpage⟩ := hshows.page (mapping.table.pageCall shown) _ _ rfl
    (List.prefix_append _ _) (hasWindow_pageCall mapping.table shown) counted hcounted
  refine ⟨total, next, htotal, hnext, ?_⟩
  have hrecords : mapping.decodeAll (window shown.pagination.pageSize.toInt64
      shown.pagination.offset rows) =
        .ok ((records.drop (before * pageLength query)).take (pageLength query)) := by
    unfold window
    rw [toNatClampNeg_offset hsize hbefore, Int32.toNatClampNeg_toInt64]
    exact decodeAll_eq_ok_iff.mpr (List.forall₂_take _ (List.forall₂_drop _ hdecodes))
  change Session.run backend (.fetchOptional (mapping.table.countCall query) [.int] _) state = _
  rw [Session.run_fetchOptional, hcount]
  dsimp only
  rw [readTotal_int]
  change Session.run backend (.fetchAll (mapping.table.pageCall shown) mapping.table.shape _) _ = _
  rw [Session.run_fetchAll, hpage]
  dsimp only
  rw [hrecords]
  rfl

/-- What the first `count` pages of a list show of its records. -/
structure CoversStart (query : ListQuery) (rows : List Row) (records : List α) (count : Nat)
    (pages : List (Page α)) : Prop where
  items : pages.flatMap Page.items = records.take (count * pageLength query)
  numbers : pages.map (·.page.toInt) =
    (List.range count).map fun before ↦ ((before + 1 : Nat) : Int)
  totals : ∀ page ∈ pages, page.total.toInt = rows.length
  sizes : ∀ page ∈ pages, page.pageSize = query.pagination.pageSize

/-- The sessions that read the first `count` pages of a list. -/
def firstPages (mapping : Mapping α) (query : ListQuery) (count : Nat) :
    List (Session (Except OperationError (Page α))) :=
  (List.range count).map fun before ↦ list mapping (pageBehind query before)

/-- One more page covers the list a page further. -/
theorem CoversStart.concat {count : Nat} {pages : List (Page α)}
    (h : CoversStart query rows records count pages) (hcount : count + 1 < 2 ^ 31) {total : Int64}
    (htotal : total.toInt = rows.length) :
    CoversStart query rows records (count + 1)
      (pages ++ [⟨(records.drop (count * pageLength query)).take (pageLength query), total,
        Int32.ofNat (count + 1), query.pagination.pageSize⟩]) where
  items := by
    rw [List.flatMap_append, h.items, List.flatMap_singleton, Nat.succ_mul, List.take_add]
  numbers := by
    rw [List.map_append, h.numbers, List.range_succ, List.map_append]
    exact congrArg (_ ++ [·]) (toInt_page hcount)
  totals := List.forall_mem_append.mpr ⟨h.totals, List.forall_mem_singleton.mpr htotal⟩
  sizes := List.forall_mem_append.mpr ⟨h.sizes, List.forall_mem_singleton.mpr rfl⟩

/--
Paging through a list loses and repeats nothing: one after the other, the first pages have the
records at the beginning of the list, in order, and each tells its number, its size and the total.
-/
theorem firstPages_coverStart (hshows : Shows backend mapping.table query rows holds)
    (hdecodes : List.Forall₂ (fun row record ↦ mapping.fromRow row = .ok record) rows records)
    (hsize : 0 < query.pagination.pageSize) {count : Nat} (hcount : count < 2 ^ 31)
    (hstate : holds state) :
    ∃ pages, (Session.runEach backend (firstPages mapping query count) state).1 =
        pages.map Except.ok ∧
      CoversStart query rows records count pages := by
  -- The state behind the pages is one that the store shows the list in, for the page that follows.
  suffices ∃ pages, (Session.runEach backend (firstPages mapping query count) state).1 =
        pages.map Except.ok ∧
      holds (Session.runEach backend (firstPages mapping query count) state).2 ∧
        CoversStart query rows records count pages by
    obtain ⟨pages, hpages, -, hcovers⟩ := this
    exact ⟨pages, hpages, hcovers⟩
  induction count with
  | zero =>
    refine ⟨[], rfl, hstate, ?_⟩
    exact
      { items := by rw [Nat.zero_mul]; rfl
        numbers := rfl
        totals := List.forall_mem_nil _
        sizes := List.forall_mem_nil _ }
  | succ count ih =>
    obtain ⟨pages, hpages, hreached, hcovers⟩ := ih (by omega)
    obtain ⟨total, next, htotal, hnext, hrun⟩ :=
      run_pageBehind hshows hdecodes hsize hcount hreached
    refine ⟨_, ?_, ?_, hcovers.concat hcount htotal⟩
    · rw [firstPages, List.range_succ, List.map_append]
      change (Session.runEach backend (firstPages mapping query count ++ [_]) state).1 = _
      rw [Session.runEach_concat, hrun, hpages, List.map_append]
      rfl
    · rw [firstPages, List.range_succ, List.map_append]
      change holds (Session.runEach backend (firstPages mapping query count ++ [_]) state).2
      rw [Session.runEach_concat, hrun]
      exact hnext

end Lists

def gadgets : List Row :=
  [⟨[.text "gear"]⟩, ⟨[.text "nut"]⟩, ⟨[.text "bolt"]⟩]

/-- A store that reads a window off the last arguments of a call and notes how many it has shown. -/
def shelf : Backend Nat where
  freshId shown := ("", shown)
  execute _ shown := (.ok 0, shown)
  fetchOptional _ _ shown := (.ok (some ⟨[.int 3]⟩), shown)
  fetchAll call _ shown :=
    match call.args.reverse with
    | .int offset :: .int limit :: _ => (.ok (window limit offset gadgets), shown + 1)
    | _ => (.error (.backend "no window"), shown)

def firstName : Mapping String where
  table := widgets
  fromRow row := (row.cursor.take .text).1

/-- Two widgets on a page, by name. -/
def byName : ListQuery :=
  ⟨[], ⟨1, 2, "name", false⟩⟩

theorem shows_shelf (table : Table) (query : ListQuery) :
    Shows shelf table query gadgets fun _ ↦ True where
  count shown _ := ⟨3, shown, rfl, trivial, rfl⟩
  page call limit offset _ _ hwindow shown _ := by
    refine ⟨shown + 1, trivial, ?_⟩
    obtain ⟨front, hargs⟩ := hwindow.args
    unfold shelf
    dsimp only
    rw [← hargs, List.reverse_append]
    rfl

theorem firstPages_byName :
    0 < byName.pagination.pageSize ∧
      ∃ pages, (Session.runEach shelf (firstPages firstName byName 2) 0).1 = pages.map Except.ok ∧
        CoversStart byName gadgets ["gear", "nut", "bolt"] 2 pages := by
  refine ⟨by decide, ?_⟩
  have hdecodes : List.Forall₂ (fun row record ↦ firstName.fromRow row = .ok record) gadgets
      ["gear", "nut", "bolt"] :=
    .cons rfl (.cons rfl (.cons rfl .nil))
  exact firstPages_coverStart (shows_shelf widgets byName) hdecodes (by decide) (by decide) trivial

end ProtoCrud.Record
