import ProtoCrud.Record.Operation
import ProtoCrud.Record.Script

/-!
# Traces: the calls that reach a store

The trace of a session is the list of calls that it makes while it runs against a backend, whatever
the backend answers. Each operation has a short script of calls, and its trace is a part of the
script from the beginning.
-/

namespace ProtoCrud.Record

open Sql Query

def Event.call : Event → Call
  | .execute call => call
  | .fetchOptional call _ => call
  | .fetchAll call _ => call

def Event.text (event : Event) : String :=
  event.call.statement.text

@[simp]
def Session.events {α σ : Type} (backend : Backend σ) : Session α → σ → List Event
  | .done _, _ => []
  | .freshId next, state =>
    (next (backend.freshId state).1).events backend (backend.freshId state).2
  | .execute call next, state =>
    .execute call ::
      (next (backend.execute call state).1).events backend (backend.execute call state).2
  | .fetchOptional call shape next, state =>
    .fetchOptional call shape ::
      (next (backend.fetchOptional call shape state).1).events backend
        (backend.fetchOptional call shape state).2
  | .fetchAll call shape next, state =>
    .fetchAll call shape ::
      (next (backend.fetchAll call shape state).1).events backend
        (backend.fetchAll call shape state).2

def widgets : Table where
  entity := "Widget"
  name := "widget"
  columns := ["name"]
  selected := ["id", "name", "created_at", "updated_at", "created_by", "updated_by"]
  shape := [.text, .text, .timestamp, .timestamp, .text, .text]
  filterable := ["name"]

section Tables

variable (table : Table)

def Table.selection : Statement :=
  .select table.name table.selected

def Table.removal : Statement :=
  .delete table.name

/-- The statement that counts the rows of a list. -/
def Table.counting (query : ListQuery) : Statement :=
  .count table.name (table.condition query.filters)

def Table.paging (query : ListQuery) : Statement :=
  .page table.name table.selected (table.condition query.filters)
    (query.pagination.sortColumn table.filterable) query.pagination.direction

/-- The arguments that the two statements of a list share. -/
def Table.filterArgs (query : ListQuery) : List Value :=
  (Predicate.allOperands (table.condition query.filters)).map Value.text

def Table.insertCall (id : String) (row : NewRow) : Call :=
  ⟨table.insertion, .text id :: row.values ++ [row.createdBy]⟩

def Table.updateCall (id : String) (changes : Changes) : Call :=
  ⟨table.alteration (changes.assignments.map Prod.fst),
    changes.assignments.map Prod.snd ++ [changes.updatedBy, .text id]⟩

/-- What counts the rows of a list. -/
def Table.countCall (query : ListQuery) : Call :=
  ⟨table.counting query, table.filterArgs query⟩

def Table.pageCall (query : ListQuery) : Call :=
  ⟨table.paging query, table.filterArgs query ++
    [.int query.pagination.pageSize.toInt64, .int query.pagination.offset]⟩

/-- The call that reads a row. -/
def Table.selectEvent (id : String) : Event :=
  .fetchOptional ⟨table.selection, [.text id]⟩ table.shape

/-- The call that removes a row. -/
def Table.deleteEvent (id : String) : Event :=
  .execute ⟨table.removal, [.text id]⟩

end Tables

section Runs

variable {α σ : Type} (backend : Backend σ) (state : σ)

theorem Session.run_freshId (next : String → Session α) :
    (Session.freshId next).run backend state =
      (next (backend.freshId state).1).run backend (backend.freshId state).2 :=
  rfl

theorem Session.run_execute (call : Call) (next : Answer UInt64 → Session α) :
    (Session.execute call next).run backend state =
      (next (backend.execute call state).1).run backend (backend.execute call state).2 :=
  rfl

theorem Session.run_fetchOptional (call : Call) (shape : List ColumnKind)
    (next : Answer (Option Row) → Session α) :
    (Session.fetchOptional call shape next).run backend state =
      (next (backend.fetchOptional call shape state).1).run backend
        (backend.fetchOptional call shape state).2 :=
  rfl

theorem Session.run_fetchAll (call : Call) (shape : List ColumnKind)
    (next : Answer (List Row) → Session α) :
    (Session.fetchAll call shape next).run backend state =
      (next (backend.fetchAll call shape state).1).run backend
        (backend.fetchAll call shape state).2 :=
  rfl

theorem Session.run_map {β : Type} (f : α → β) (session : Session α) :
    (session.map f).run backend state =
      (f (session.run backend state).1, (session.run backend state).2) := by
  induction session generalizing state with
  | done result => rfl
  | freshId next ih => exact ih _ _
  | execute call next ih => exact ih _ _
  | fetchOptional call shape next ih => exact ih _ _
  | fetchAll call shape next ih => exact ih _ _

end Runs

/-- A row that does not decode is not a missing row. -/
theorem afterInsert_decode {α : Type} (mapping : Mapping α) (row : Row) :
    afterInsert mapping.table (mapping.decode row) = mapping.decode row := by
  unfold Mapping.decode
  cases mapping.fromRow row <;> rfl

section Scripts

variable {α σ : Type} (mapping : Mapping α) (backend : Backend σ) (state : σ)

@[simp]
theorem events_map {β : Type} (f : α → β) (session : Session α) :
    (session.map f).events backend state = session.events backend state := by
  induction session generalizing state with
  | done result => rfl
  | freshId next ih => exact ih _ _
  | execute call next ih => exact congrArg _ (ih _ _)
  | fetchOptional call shape next ih => exact congrArg _ (ih _ _)
  | fetchAll call shape next ih => exact congrArg _ (ih _ _)

/-- A get makes one call, unless the id is missing. -/
theorem events_get (id : String) :
    (get mapping id).events backend state =
      if id = "" then [] else [mapping.table.selectEvent id] := by
  unfold get
  split
  · rfl
  · simp only [Session.events]
    split <;> rfl

theorem events_get_within (id : String) :
    (get mapping id).events backend state <+: [mapping.table.selectEvent id] := by
  rw [events_get]
  split
  · exact List.nil_prefix
  · exact List.prefix_rfl

/-- A create draws an id and adds the row; it reads the row back if that succeeded. -/
theorem events_create (row : NewRow) :
    (create mapping row).events backend state =
      match require row.required with
      | .error _ => []
      | .ok () =>
        let (id, drawn) := backend.freshId state
        let (answer, written) := backend.execute (mapping.table.insertCall id row) drawn
        .execute (mapping.table.insertCall id row) ::
          match answer with
          | .error _ => []
          | .ok _ => (get mapping id).events backend written := by
  unfold create
  cases require row.required with
  | error e => rfl
  | ok checked =>
    simp only [Session.events]
    refine congrArg _ ?_
    unfold Table.insertCall
    cases (backend.execute ⟨mapping.table.insertion,
      .text (backend.freshId state).1 :: row.values ++ [row.createdBy]⟩
        (backend.freshId state).2).1 with
    | error e => cases e <;> rfl
    | ok affected => exact events_map _ _ _ _

theorem events_create_within (row : NewRow) :
    (create mapping row).events backend state <+:
      [.execute (mapping.table.insertCall (backend.freshId state).1 row),
        mapping.table.selectEvent (backend.freshId state).1] := by
  rw [events_create]
  split
  · exact List.nil_prefix
  · refine (List.prefix_cons_inj _).mpr ?_
    split
    · exact List.nil_prefix
    · exact events_get_within mapping backend _ _

/-- An update changes the row; it reads the row back if that succeeded. -/
theorem events_update (id : String) (changes : Changes) :
    (update mapping id changes).events backend state =
      if id = "" ∨ changes.assignments = [] then []
      else
        let (answer, written) := backend.execute (mapping.table.updateCall id changes) state
        .execute (mapping.table.updateCall id changes) ::
          match answer with
          | .error _ => []
          | .ok _ => (get mapping id).events backend written := by
  unfold update
  by_cases hid : id = ""
  · rw [if_pos hid, if_pos (.inl hid)]
    rfl
  by_cases hchanges : changes.assignments = []
  · rw [if_neg hid, if_pos (List.isEmpty_iff.mpr hchanges), if_pos (.inr hchanges)]
    rfl
  rw [if_neg hid, if_neg (by simpa using hchanges), if_neg (by simp [hid, hchanges])]
  simp only [Session.events]
  refine congrArg _ ?_
  unfold Table.updateCall
  cases (backend.execute ⟨mapping.table.alteration (changes.assignments.map Prod.fst),
    changes.assignments.map Prod.snd ++ [changes.updatedBy, .text id]⟩ state).1 with
  | error e => rfl
  | ok affected => rfl

theorem events_update_within (id : String) (changes : Changes) :
    (update mapping id changes).events backend state <+:
      [.execute (mapping.table.updateCall id changes), mapping.table.selectEvent id] := by
  rw [events_update]
  split
  · exact List.nil_prefix
  · refine (List.prefix_cons_inj _).mpr ?_
    split
    · exact List.nil_prefix
    · exact events_get_within mapping backend _ _

/-- A delete makes one call, unless the id is missing. -/
theorem events_delete (id : String) :
    (delete mapping id).events backend state =
      if id = "" then [] else [mapping.table.deleteEvent id] := by
  unfold delete
  split
  · rfl
  · simp only [Session.events]
    split <;> rfl

theorem events_delete_within (id : String) :
    (delete mapping id).events backend state <+: [mapping.table.deleteEvent id] := by
  rw [events_delete]
  split
  · exact List.nil_prefix
  · exact List.prefix_rfl

/-- A list counts the rows; it reads the page if that gave a total. -/
theorem events_list (query : ListQuery) :
    (list mapping query).events backend state =
      .fetchOptional (mapping.table.countCall query) [.int] ::
        match (backend.fetchOptional (mapping.table.countCall query) [.int] state).1 with
        | .error _ => []
        | .ok row =>
          match readTotal mapping.table row with
          | .error _ => []
          | .ok _ => [.fetchAll (mapping.table.pageCall query) mapping.table.shape] := by
  unfold list
  simp only [Session.events]
  refine congrArg _ ?_
  unfold Table.countCall Table.counting Table.filterArgs
  cases (backend.fetchOptional ⟨.count mapping.table.name (mapping.table.condition query.filters),
    (Predicate.allOperands (mapping.table.condition query.filters)).map Value.text⟩ [.int]
      state).1 with
  | error e => rfl
  | ok row =>
    cases htotal : readTotal mapping.table row with
    | error e => simp only [htotal, Session.events]
    | ok total =>
      simp only [htotal, Session.events]
      split <;> rfl

theorem events_list_within (query : ListQuery) :
    (list mapping query).events backend state <+:
      [.fetchOptional (mapping.table.countCall query) [.int],
        .fetchAll (mapping.table.pageCall query) mapping.table.shape] := by
  rw [events_list]
  refine (List.prefix_cons_inj _).mpr ?_
  split
  · exact List.nil_prefix
  · split
    · exact List.nil_prefix
    · exact List.prefix_rfl

end Scripts

end ProtoCrud.Record
